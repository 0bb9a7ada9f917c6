import EntityForge.Proofs.Registry.Batches
import EntityForge.Proofs.Text.Qualified
import Mathlib.Data.List.Induction

/-!
Paths of records. A class whose name has only segments that can stand in a path is stored below a
directory for each segment of its package, so that the path gives the name back and no file of a
registry overwrites another.
-/

namespace EntityForge

/-- A segment that stands in a path as it is. -/
structure PathSegment (segment : String) : Prop where
  nonempty : segment ≠ ""
  unslashed : '/' ∉ segment.toList

instance (segment : String) : Decidable (PathSegment segment) :=
  decidable_of_iff (segment ≠ "" ∧ '/' ∉ segment.toList)
    ⟨fun h => ⟨h.1, h.2⟩, fun h => ⟨h.nonempty, h.unslashed⟩⟩

theorem PathSegment.append {s t : String} (hs : '/' ∉ s.toList) (ht : PathSegment t) :
    PathSegment (s ++ t) where
  nonempty := fun hempty => ht.nonempty (String.append_eq_empty_iff.mp hempty).2
  unslashed := by simpa using ⟨hs, ht.unslashed⟩

def PathName (name : String) : Prop := ∀ s ∈ Qualified.split '.' name, PathSegment s

instance (name : String) : Decidable (PathName name) :=
  inferInstanceAs (Decidable (∀ s ∈ Qualified.split '.' name, PathSegment s))

namespace PathName

variable {name : String}

theorem enclosing (h : PathName name) : ∀ s ∈ Qualified.enclosing name, PathSegment s := by
  intro s hs
  apply h
  rw [Qualified.split_eq_enclosing]
  exact List.mem_append_left _ hs

theorem simpleName (h : PathName name) : PathSegment (Qualified.simpleName name) := by
  apply h
  rw [Qualified.split_eq_enclosing]
  simp

theorem packageName_eq_empty (h : PathName name) :
    Qualified.packageName name = "" ↔ Qualified.enclosing name = [] := by
  constructor
  · intro hempty
    by_contra hne
    have hsplit := Qualified.split_packageName hne
    rw [hempty, Qualified.split_of_notMem (by simp)] at hsplit
    exact (h.enclosing "" (by simp [← hsplit])).nonempty rfl
  · intro hnil
    rw [Qualified.packageName_eq, hnil, String.intercalate_nil]

end PathName

namespace ClassRecord

variable {segments : List String} {file : String} {r s : ClassRecord}

private theorem getLast?_intercalate {last : String} (segments : List String)
    (h : PathSegment last) :
    ("/".intercalate (segments ++ [last])).toList.getLast? = last.toList.getLast? := by
  have hlast : last.toList ≠ [] := by simpa using h.nonempty
  by_cases hnil : segments = []
  · simp [hnil]
  · rw [String.intercalate_append_of_ne_nil hnil (List.cons_ne_nil _ _),
      String.intercalate_singleton, String.toList_append, List.getLast?_append_of_ne_nil _ hlast]

theorem joinPath_intercalate (h : ∀ s ∈ segments, PathSegment s) (hfile : '/' ∉ file.toList) :
    joinPath ("/".intercalate segments) file = "/".intercalate (segments ++ [file]) := by
  have hhead : file.toList.head? ≠ some '/' := fun hhead => hfile (List.mem_of_head? hhead)
  induction segments using List.reverseRecOn with
  | nil => simp [joinPath]
  | append_singleton front last _ =>
    have hlast := h last (by simp)
    have hend := getLast?_intercalate front hlast
    have hslash : ("/".intercalate (front ++ [last])).toList.getLast? ≠ some '/' := by
      rw [hend]
      exact fun hmem => hlast.unslashed (List.mem_of_getLast? hmem)
    have hne : "/".intercalate (front ++ [last]) ≠ "" := by
      intro hempty
      rw [hempty] at hend
      exact hlast.nonempty (by simpa using hend.symm)
    rw [joinPath, if_neg (by simpa using ⟨hhead, hne⟩), if_neg hslash,
      String.intercalate_append_of_ne_nil (List.concat_ne_nil last front)
        (List.cons_ne_nil file []), String.intercalate_singleton]

theorem foldl_joinPath (h : ∀ s ∈ segments, PathSegment s) :
    segments.foldl joinPath "" = "/".intercalate segments := by
  induction segments using List.reverseRecOn with
  | nil => rfl
  | append_singleton front last ih =>
    rw [List.foldl_concat, ih fun s hs => h s (List.mem_append_left _ hs)]
    exact joinPath_intercalate (fun s hs => h s (List.mem_append_left _ hs))
      (h last (by simp)).unslashed

/-- The path of a class has its segments, with the ending of the file behind the last. -/
theorem relativePath_eq (h : PathName r.name) :
    r.relativePath =
      "/".intercalate
        (Qualified.enclosing r.name ++ [Qualified.simpleName r.name ++ ".class"]) := by
  have hpackage : (Qualified.split '.' (Qualified.packageName r.name)).filter (· ≠ "") =
      Qualified.enclosing r.name := by
    by_cases hnil : Qualified.enclosing r.name = []
    · rw [h.packageName_eq_empty.mpr hnil, hnil, Qualified.split_of_notMem (by simp)]
      rfl
    · rw [Qualified.split_packageName hnil]
      apply List.filter_eq_self.mpr
      intro s hs
      simpa using (h.enclosing s hs).nonempty
  have hfile : '/' ∉ (Qualified.simpleName r.name ++ ".class").toList := by
    simpa using h.simpleName.unslashed
  rw [relativePath, pathOf, hpackage, foldl_joinPath h.enclosing]
  exact joinPath_intercalate h.enclosing hfile

theorem split_relativePath (h : PathName r.name) :
    Qualified.split '/' r.relativePath =
      Qualified.enclosing r.name ++ [Qualified.simpleName r.name ++ ".class"] := by
  rw [relativePath_eq h]
  apply Qualified.split_intercalate (by simp)
  intro s hs
  rcases List.mem_append.mp hs with hs | hs
  · exact (h.enclosing s hs).unslashed
  · rw [List.mem_singleton.mp hs]
    simpa using h.simpleName.unslashed

theorem relativePath_inj (hr : PathName r.name) (hs : PathName s.name) :
    r.relativePath = s.relativePath ↔ r.name = s.name := by
  constructor
  · intro hpath
    have hsegments := split_relativePath hr
    rw [hpath, split_relativePath hs] at hsegments
    obtain ⟨henclosing, hfile⟩ := List.append_inj' hsegments rfl
    have hsimple : Qualified.simpleName s.name = Qualified.simpleName r.name := by simpa using hfile
    exact Qualified.eq_of_parts henclosing.symm hsimple.symm
  · intro hname
    rw [relativePath, relativePath, hname]

end ClassRecord

/-- The files of a registry lie at different paths. -/
theorem ClassRegistry.files_nodup {r : ClassRegistry} (h : Indexed r.records)
    (hnames : ∀ entry ∈ r.records, PathName entry.1) : (r.files.map Prod.fst).Nodup := by
  have hname : ∀ entry ∈ r.records, entry.2.name = entry.1 := by
    intro entry hentry
    exact h.named entry.1 entry.2 (Keyed.Ordered.get?_of_mem h.ordered hentry)
  have hplain : ∀ entry ∈ r.records, PathName entry.2.name := by
    intro entry hentry
    rw [hname entry hentry]
    exact hnames entry hentry
  have hpaths : r.records.Pairwise fun a b => a.2.relativePath ≠ b.2.relativePath := by
    apply List.Pairwise.imp_of_mem _ h.ordered
    intro a b ha hb hlt hpath
    have hsame := (ClassRecord.relativePath_inj (hplain a ha) (hplain b hb)).mp hpath
    rw [hname a ha, hname b hb] at hsame
    exact String.ne_of_lt hlt hsame
  have hfiles : r.files.map Prod.fst = r.records.map fun entry => entry.2.relativePath := by
    simp [files]
  rw [hfiles, List.Nodup, List.pairwise_map]
  exact hpaths

end EntityForge
