import EntityForge.Text.Qualified
import Mathlib.Data.List.TakeWhile

/-!
Segments of qualified names. A text is its segments put together again, so that texts of the same
segments are the same. The simple name of a qualified name is its last segment, and the package
holds the segments before it.
-/

namespace EntityForge.Qualified

variable {separator : Char} {name : String} {segments : List String}

section Split

private theorem splitFrom_eq (separator : Char) (text : List Char) :
    ∀ (current : List Char) (done : List (List Char)),
      splitFrom separator current done text =
        done.reverse ++ (text.splitOn separator).modifyHead (current.reverse ++ ·) := by
  induction text with
  | nil =>
    intro current done
    simp [splitFrom, List.splitOn]
  | cons c rest ih =>
    intro current done
    rw [List.splitOn_cons_eq_if_modifyHead, splitFrom]
    by_cases heq : c = separator
    · simp [heq, ih]
      cases rest.splitOn separator <;> rfl
    · simp [heq, ih]
      cases rest.splitOn separator <;> simp

theorem split_eq (separator : Char) (s : String) :
    split separator s = (s.toList.splitOn separator).map String.ofList := by
  rw [split, splitFrom_eq]
  cases s.toList.splitOn separator <;> simp

theorem intercalate_split (separator : Char) (s : String) :
    (String.singleton separator).intercalate (split separator s) = s := by
  rw [← String.toList_inj, split_eq]
  simp [Function.comp_def, List.intercalate_splitOn]

theorem split_inj {s t : String} (h : split separator s = split separator t) : s = t := by
  rw [← intercalate_split separator s, h, intercalate_split]

theorem split_of_notMem {s : String} (h : separator ∉ s.toList) : split separator s = [s] := by
  simp [split_eq, List.splitOn_eq_singleton h]

theorem split_append (separator : Char) (s t : String) :
    split separator (s ++ String.singleton separator ++ t) =
      split separator s ++ split separator t := by
  simp [split_eq, List.splitOn_append_cons_self]

theorem split_segment {s segment : String} (h : '.' ∉ segment.toList) :
    split '.' (s ++ "." ++ segment) = split '.' s ++ [segment] := by
  have happend := split_append '.' s segment
  rwa [split_of_notMem h] at happend

theorem split_intercalate (hne : segments ≠ []) (h : ∀ s ∈ segments, separator ∉ s.toList) :
    split separator ((String.singleton separator).intercalate segments) = segments := by
  rw [split_eq, String.toList_intercalate, String.toList_singleton, List.splitOn_intercalate]
  · simp
  · simpa using h
  · simpa using hne

private theorem notMem_of_mem_splitOn (text : List Char) :
    ∀ segment ∈ text.splitOn separator, separator ∉ segment := by
  induction text with
  | nil => simp [List.splitOn]
  | cons c rest ih =>
    rw [List.splitOn_cons_eq_if_modifyHead]
    by_cases heq : c = separator
    · simpa [heq] using ih
    · cases hrest : rest.splitOn separator with
      | nil => simp [heq]
      | cons first others =>
        rw [hrest] at ih
        simpa [heq, Ne.symm heq] using ih

theorem notMem_of_mem_split {s segment : String} (h : segment ∈ split separator s) :
    separator ∉ segment.toList := by
  rw [split_eq] at h
  obtain ⟨text, hmem, rfl⟩ := List.mem_map.mp h
  simpa using notMem_of_mem_splitOn s.toList text hmem

end Split

section Parts

/-- The segments of a name before its last one. -/
def enclosing (name : String) : List String := (split '.' name).dropLast

theorem simpleName_undotted (name : String) : '.' ∉ (simpleName name).toList := by
  intro hmem
  have hmem' : '.' ∈ name.toList.reverse.takeWhile (· ≠ '.') := by simpa [simpleName] using hmem
  simpa using List.mem_takeWhile_imp hmem'

/-- A name without a dot is its simple name; any other one is divided at its last dot. -/
private theorem name_cases (name : String) :
    (packageName name = "" ∧ name = simpleName name) ∨
      name = packageName name ++ "." ++ simpleName name := by
  have hparts := List.takeWhile_append_dropWhile (p := (· ≠ '.')) (l := name.toList.reverse)
  cases hrest : name.toList.reverse.dropWhile (· ≠ '.') with
  | nil =>
    left
    constructor
    · simp only [packageName, hrest]
      rfl
    · rw [hrest, List.append_nil] at hparts
      simp only [simpleName, hparts, List.reverse_reverse, String.ofList_toList]
  | cons c rest =>
    right
    have hdot : c = '.' := by
      have h := List.head_dropWhile_not (p := (· ≠ '.')) (l := name.toList.reverse)
        (by rw [hrest]; exact List.cons_ne_nil c rest)
      simp only [hrest, List.head_cons] at h
      simpa using h
    rw [hrest, hdot] at hparts
    have hname := congrArg List.reverse hparts
    rw [← String.toList_inj]
    simp only [packageName, simpleName, hrest, String.toList_append, String.toList_ofList]
    simpa using hname.symm

private theorem split_cases (name : String) :
    (packageName name = "" ∧ split '.' name = [simpleName name]) ∨
      split '.' name = split '.' (packageName name) ++ [simpleName name] := by
  have hlast := split_of_notMem (simpleName_undotted name)
  obtain ⟨hpackage, hname⟩ | hname := name_cases name
  · left
    constructor
    · exact hpackage
    · rw [← hname] at hlast ⊢
      exact hlast
  · right
    exact (congrArg _ hname).trans (split_segment (simpleName_undotted name))

theorem split_eq_enclosing (name : String) :
    split '.' name = enclosing name ++ [simpleName name] := by
  obtain ⟨-, hsplit⟩ | hsplit := split_cases name
  · simp [enclosing, hsplit]
  · rw [enclosing, hsplit, List.dropLast_concat]

theorem packageName_eq (name : String) : packageName name = ".".intercalate (enclosing name) := by
  obtain ⟨hpackage, hsplit⟩ | hsplit := split_cases name
  · simp [enclosing, hsplit, hpackage]
  · rw [enclosing, hsplit, List.dropLast_concat]
    exact (intercalate_split '.' (packageName name)).symm

theorem split_packageName (h : enclosing name ≠ []) :
    split '.' (packageName name) = enclosing name := by
  rw [packageName_eq]
  apply split_intercalate h
  intro s hs
  exact notMem_of_mem_split (List.dropLast_subset _ hs)

/-- A name is its package and its simple name. -/
theorem eq_of_parts {other : String} (henclosing : enclosing name = enclosing other)
    (hsimple : simpleName name = simpleName other) : name = other := by
  have hsplit : split '.' name = split '.' other := by
    rw [split_eq_enclosing, split_eq_enclosing, henclosing, hsimple]
  exact split_inj hsplit

end Parts

end EntityForge.Qualified
