import EntityForge.Type.Signature
import Mathlib.Data.List.TakeWhile

/-!
The grammar of signatures, stated on type trees. Each node has a name that its kind allows, only
classes have arguments, and the argument that allows any type stands plain. What resolving yields
keeps to this grammar and is spelled by exactly the characters that were read, so the text of a
signature is never lost.
-/

namespace EntityForge

namespace TypeTree

/-- The characters that no class name has: the marks of the grammar, and the slash, which is written
for a dot. -/
def classMarks : List Char := [';', '<', '>', '[', '(', ')', '*', '+', '-', '/']

def variableMarks : List Char := [';', '<', '>', '/', '[']

/-- A node that its kind allows, whatever its arguments are. -/
def Formed (t : TypeTree) : Prop :=
  match t.kind with
  | .primitive p => p ≠ .void ∧ t.raw = p.keyword ∧ t.args = []
  | .classType => t.raw ≠ "" ∧ ∀ c ∈ t.raw.toList, c ∉ classMarks
  | .variable => t.raw ≠ "" ∧ (∀ c ∈ t.raw.toList, c ∉ variableMarks) ∧ t.args = []
  | .wildcard => t.raw = "?" ∧ t.args = [] ∧ t.dims = 0 ∧ t.bound = .exact

theorem Formed.ofClass {t : TypeTree} (h : t.Formed) (hclass : t.kind = .classType) :
    (ofClass t.raw).Formed := by
  unfold Formed at h
  rwa [hclass] at h

/-- A tree in which every node is formed. -/
inductive Grammatical : TypeTree → Prop
  | node {t : TypeTree} (formed : t.Formed) (args : ∀ a ∈ t.args, Grammatical a) : Grammatical t

theorem Grammatical.formed {t : TypeTree} (h : t.Grammatical) : t.Formed := by
  obtain ⟨hformed, _⟩ := h
  exact hformed

theorem Grammatical.args {t : TypeTree} (h : t.Grammatical) : ∀ a ∈ t.args, a.Grammatical := by
  obtain ⟨_, hargs⟩ := h
  exact hargs

/-- The characters are looked at one after the other. -/
instance : (t : TypeTree) → Decidable t.Formed
  | ⟨raw, args, _, .primitive p, _⟩ =>
    inferInstanceAs (Decidable (p ≠ .void ∧ raw = p.keyword ∧ args = []))
  | ⟨raw, _, _, .classType, _⟩ =>
    decidable_of_iff (raw ≠ "" ∧ raw.toList.all (· ∉ classMarks) = true)
      (by simp only [List.all_eq_true, decide_eq_true_eq]; rfl)
  | ⟨raw, args, _, .variable, _⟩ =>
    decidable_of_iff (raw ≠ "" ∧ raw.toList.all (· ∉ variableMarks) = true ∧ args = [])
      (by simp only [List.all_eq_true, decide_eq_true_eq]; rfl)
  | ⟨raw, args, dims, .wildcard, bound⟩ =>
    inferInstanceAs (Decidable (raw = "?" ∧ args = [] ∧ dims = 0 ∧ bound = .exact))

mutual

/-- Whether every node of a tree is formed. -/
def decGrammatical : (t : TypeTree) → Decidable t.Grammatical
  | ⟨raw, args, dims, kind, bound⟩ =>
    match decGrammaticalAll args with
    | .isFalse h => .isFalse fun ht => h ht.args
    | .isTrue h =>
      decidable_of_iff (Formed ⟨raw, args, dims, kind, bound⟩)
        ⟨fun hformed => .node hformed h, fun ht => ht.formed⟩

/-- Whether every node of every tree is formed. -/
def decGrammaticalAll : (ts : List TypeTree) → Decidable (∀ t ∈ ts, t.Grammatical)
  | [] => .isTrue nofun
  | t :: ts =>
    match decGrammatical t with
    | .isFalse h => .isFalse fun hall => h (hall t List.mem_cons_self)
    | .isTrue h =>
      match decGrammaticalAll ts with
      | .isFalse hs => .isFalse fun hall => hs (List.forall_mem_cons.mp hall).2
      | .isTrue hs => .isTrue (List.forall_mem_cons.mpr ⟨h, hs⟩)

end

instance (t : TypeTree) : Decidable t.Grammatical := decGrammatical t

mutual

/-- The number of levels of arguments below the root. -/
def nesting : TypeTree → Nat
  | ⟨_, args, _, _, _⟩ => nestingAll args

/-- The number of levels that a list of arguments adds to the type that has them. -/
def nestingAll : List TypeTree → Nat
  | [] => 0
  | t :: ts => max (nesting t + 1) (nestingAll ts)

end

theorem nestingAll_le_iff {ts : List TypeTree} {n : Nat} :
    nestingAll ts ≤ n ↔ ∀ t ∈ ts, t.nesting < n := by
  induction ts with
  | nil => simp [nestingAll]
  | cons t ts ih =>
    rw [nestingAll, Nat.max_le, ih, List.forall_mem_cons, Nat.succ_le_iff]

/-- A type nests one level more than its arguments do. -/
theorem nesting_lt_succ_iff {t : TypeTree} {n : Nat} :
    t.nesting < n + 1 ↔ ∀ a ∈ t.args, a.nesting < n := by
  obtain ⟨raw, args, dims, kind, bound⟩ := t
  rw [Nat.lt_succ_iff, nesting, nestingAll_le_iff]

mutual

/-- The types in a tree, the root first. -/
def nodes : TypeTree → List TypeTree
  | ⟨raw, args, dims, kind, bound⟩ => ⟨raw, args, dims, kind, bound⟩ :: nodesAll args

def nodesAll : List TypeTree → List TypeTree
  | [] => []
  | t :: ts => nodes t ++ nodesAll ts

end

theorem nodes_eq (t : TypeTree) : t.nodes = t :: nodesAll t.args := by
  cases t
  rw [nodes]

theorem nodesAll_eq (ts : List TypeTree) : nodesAll ts = ts.flatMap nodes := by
  induction ts with
  | nil => rfl
  | cons t ts ih => rw [nodesAll, ih, List.flatMap_cons]

/-- Every type in a grammatical tree is formed. -/
theorem Grammatical.nodes {t : TypeTree} (h : t.Grammatical) : ∀ u ∈ t.nodes, u.Formed := by
  induction h with
  | @node t hformed _ ih =>
    rw [nodes_eq, nodesAll_eq]
    refine List.forall_mem_cons.mpr ⟨hformed, fun u hu => ?_⟩
    obtain ⟨a, ha, hmem⟩ := List.mem_flatMap.mp hu
    exact ih a ha u hmem

/-! The characters of a signature, part by part. -/

def argumentChars (args : List TypeTree) : List Char :=
  if args.isEmpty then [] else '<' :: signatureListChars args ++ ['>']

/-- The characters of a type without its bound and its dimensions. -/
def elementChars (t : TypeTree) : List Char :=
  match t.kind with
  | .primitive p => [p.letter]
  | .wildcard => ['*']
  | .variable => 'T' :: t.raw.toList ++ [';']
  | .classType => 'L' :: slashed t.raw ++ argumentChars t.args ++ [';']

theorem signatureChars_eq (t : TypeTree) :
    t.signatureChars = boundMark t.bound ++ brackets t.dims ++ t.elementChars := by
  obtain ⟨raw, args, dims, kind, bound⟩ := t
  cases kind <;> rfl

theorem signatureListChars_eq (ts : List TypeTree) :
    signatureListChars ts = ts.flatMap signatureChars := by
  induction ts with
  | nil => rfl
  | cons t ts ih => rw [signatureListChars, ih, List.flatMap_cons]

/-- The concatenation of signatures. -/
theorem join_signature (ts : List TypeTree) :
    String.join (ts.map signature) = String.ofList (signatureListChars ts) := by
  induction ts with
  | nil => rfl
  | cons t ts ih => rw [List.map_cons, String.join_cons, ih, signature, ← String.ofList_append,
      signatureListChars]

end TypeTree

namespace Signature

open TypeTree

/-! Names. -/

theorem isClassNameChar_of_unmarked {c : Char} (h : c ∉ classMarks) :
    isClassNameChar (if c = '.' then '/' else c) = true := by
  split
  · decide
  · next hdot =>
    simp only [classMarks, List.mem_cons, List.not_mem_nil, or_false, not_or] at h
    simp [isClassNameChar, hdot, h]

theorem unmarked_of_isClassNameChar {c : Char} (h : isClassNameChar c = true) :
    (if c = '/' then '.' else c) ∉ classMarks := by
  split
  · decide
  · next hslash =>
    have hmark : ∀ m ∈ classMarks, m = '/' ∨ isClassNameChar m = false := by
      simp [classMarks, isClassNameChar]
    intro hc
    rcases hmark c hc with heq | hbad
    · exact hslash heq
    · cases h.symm.trans hbad

theorem isVariableNameChar_iff {c : Char} : isVariableNameChar c = true ↔ c ∉ variableMarks := by
  simp [isVariableNameChar, variableMarks, and_assoc]

theorem slashed_dotted {cs : List Char} (h : ∀ c ∈ cs, isClassNameChar c = true) :
    slashed (dotted cs) = cs := by
  rw [slashed, dotted, String.toList_ofList, List.map_map]
  refine (List.map_congr_left fun c hc => ?_).trans (List.map_id cs)
  have hdot : c ≠ '.' := by
    rintro rfl
    cases h '.' hc
  by_cases hslash : c = '/' <;> simp [hslash, hdot]

theorem dotted_unmarked {cs : List Char} (h : ∀ c ∈ cs, isClassNameChar c = true) :
    ∀ c ∈ (dotted cs).toList, c ∉ classMarks := by
  rw [dotted, String.toList_ofList, List.forall_mem_map]
  exact fun c hc => unmarked_of_isClassNameChar (h c hc)

/-- What is cut out at a closing bracket, the bracket, and the rest make up the input. -/
theorem splitClosing_text {cs : List Char} {depth : Nat} {inner after : List Char}
    (h : splitClosing depth cs = some (inner, after)) : cs = inner ++ '>' :: after := by
  induction cs generalizing depth inner with
  | nil => cases h
  | cons c rest ih =>
    unfold splitClosing at h
    split at h
    · next hc => cases hc
    · next hc =>
      cases hc
      obtain ⟨⟨i, a⟩, hi, heq⟩ := Option.map_eq_some_iff.mp h
      cases heq
      rw [ih hi, List.cons_append]
    · next hc =>
      cases hc
      split at h
      · cases h
        rfl
      · obtain ⟨⟨i, a⟩, hi, heq⟩ := Option.map_eq_some_iff.mp h
        cases heq
        rw [ih hi, List.cons_append]
    · next hc =>
      cases hc
      obtain ⟨⟨i, a⟩, hi, heq⟩ := Option.map_eq_some_iff.mp h
      cases heq
      rw [ih hi, List.cons_append]

/-! What resolving yields. -/

/-- A type was resolved from the head of an input: it is grammatical, nests fewer levels than were
allowed, and its signature is what was read. -/
structure Spelled (levels : Nat) (cs : List Char) (t : TypeTree) (rest : List Char) : Prop where
  text : cs = t.signatureChars ++ rest
  grammatical : t.Grammatical
  nesting : t.nesting < levels

/-- A type without bound and dimensions was resolved, which is not the argument that allows any
type. -/
structure SpelledElement (levels : Nat) (cs : List Char) (t : TypeTree) (rest : List Char) :
    Prop where
  text : cs = t.elementChars ++ rest
  kind : t.kind ≠ .wildcard
  grammatical : t.Grammatical
  nesting : t.nesting < levels

/-- Types that were resolved in turn are spelled by the whole input. -/
theorem typesIn_spelled {levels : Nat} {one : Nat → (cs : List Char) → Resolution cs}
    (hone : ∀ pos cs r, one pos cs = .ok r → Spelled levels cs r.tree r.rest) {pos : Nat}
    {done : List TypeTree} {cs : List Char} {ts : List TypeTree}
    (h : typesIn one pos done cs = .ok ts) :
    ∃ more, ts = done.reverse ++ more ∧ cs = signatureListChars more ∧
      (∀ t ∈ more, t.Grammatical) ∧ ∀ t ∈ more, t.nesting < levels := by
  fun_induction typesIn one pos done cs with
  | case1 pos done =>
    cases h
    exact ⟨[], by simp, rfl, nofun, nofun⟩
  | case2 => cases h
  | case3 pos done c cs r hr ih =>
    have hfirst := hone pos (c :: cs) r hr
    obtain ⟨more, rfl, hrest, hgrammatical, hnesting⟩ := ih h
    refine ⟨r.tree :: more, by simp, ?_, ?_, ?_⟩
    · exact hfirst.text.trans (by rw [hrest, signatureListChars])
    · exact List.forall_mem_cons.mpr ⟨hfirst.grammatical, hgrammatical⟩
    · exact List.forall_mem_cons.mpr ⟨hfirst.nesting, hnesting⟩

theorem variableAt_spelled {levels pos : Nat} {cs : List Char} {r : Resolved cs}
    (h : variableAt pos cs = .ok r) :
    SpelledElement (levels + 1) ('T' :: cs) r.tree r.rest := by
  have hname : ∀ c ∈ cs.takeWhile isVariableNameChar, c ∉ variableMarks :=
    fun c hc => isVariableNameChar_iff.mp (List.mem_takeWhile_imp hc)
  have hsplit := List.takeWhile_append_dropWhile (p := isVariableNameChar) (l := cs)
  unfold variableAt at h
  dsimp only at h
  split at h
  · next hrest =>
    split at h
    · cases h
    · next hne =>
      cases h
      rw [hrest] at hsplit
      refine ⟨?_, nofun, .node ⟨?_, ?_, rfl⟩ nofun, nesting_lt_succ_iff.mpr nofun⟩
      · simp only [TypeTree.ofVariable, elementChars, String.toList_ofList]
        simpa using hsplit.symm
      · simpa [TypeTree.ofVariable] using hne
      · simpa only [TypeTree.ofVariable, String.toList_ofList] using hname
  · cases h

/-- A class is spelled by its name and its arguments, which are resolved one level deeper. -/
theorem classAt_spelled {levels : Nat} {inner : Nat → (cs : List Char) → Resolution cs}
    (hinner : ∀ pos cs r, inner pos cs = .ok r → Spelled levels cs r.tree r.rest) {pos : Nat}
    {cs : List Char} {r : Resolved cs} (h : classAt inner pos cs = .ok r) :
    SpelledElement (levels + 1) ('L' :: cs) r.tree r.rest := by
  have hchars : ∀ c ∈ cs.takeWhile isClassNameChar, isClassNameChar c = true :=
    fun _ hc => List.mem_takeWhile_imp hc
  have hslashed := slashed_dotted hchars
  have hname := dotted_unmarked hchars
  have hsplit := List.takeWhile_append_dropWhile (p := isClassNameChar) (l := cs)
  have hnonempty (hne : ¬ (cs.takeWhile isClassNameChar).isEmpty = true) :
      dotted (cs.takeWhile isClassNameChar) ≠ "" := by
    simpa [dotted] using hne
  unfold classAt at h
  dsimp only at h
  split at h
  · next hrest =>
    split at h
    · cases h
    · next hne =>
      cases h
      rw [hrest] at hsplit
      refine ⟨?_, nofun, .node ⟨hnonempty hne, hname⟩ nofun, nesting_lt_succ_iff.mpr nofun⟩
      simp only [TypeTree.ofClass, elementChars, hslashed]
      simpa [argumentChars] using hsplit.symm
  · next hrest =>
    split at h
    · cases h
    · next hne =>
      rw [hrest] at hsplit
      split at h
      · cases h
      · cases h
      · next arguments after hsome hclose =>
        split at h
        · cases h
        · next args hargs =>
          obtain ⟨_, rfl, htext, hgrammatical, hnesting⟩ := typesIn_spelled hinner hargs
          have hclosed := splitClosing_text hclose
          split at h
          · cases h
            have hwritten : argumentChars args = '<' :: arguments ++ ['>'] := by
              have hargs : args ≠ [] := fun hnone => hsome (by rw [htext, hnone]; rfl)
              simp [argumentChars, hargs, htext]
            refine ⟨?_, nofun, .node ⟨hnonempty hne, hname⟩ hgrammatical,
              nesting_lt_succ_iff.mpr hnesting⟩
            simp only [TypeTree.ofClass, elementChars, hslashed, hwritten]
            rw [hclosed] at hsplit
            simpa using hsplit.symm
          · cases h
          · cases h
  · cases h
  · cases h

theorem elementAt_spelled {levels : Nat} {inner : Nat → (cs : List Char) → Resolution cs}
    (hinner : ∀ pos cs r, inner pos cs = .ok r → Spelled levels cs r.tree r.rest) {pos : Nat}
    {cs : List Char} {r : Resolved cs} (h : elementAt inner pos cs = .ok r) :
    SpelledElement (levels + 1) cs r.tree r.rest := by
  unfold elementAt at h
  split at h
  · cases h
  · split at h
    · cases h
    · next hclass =>
      cases h
      exact classAt_spelled hinner hclass
  · split at h
    · cases h
    · next hvariable =>
      cases h
      exact variableAt_spelled hvariable
  · cases h
  · next c rest _ _ hvoid =>
    split at h
    · next p hp =>
      cases h
      have hletter := Primitive.letter_of_ofLetter? hp
      have hvalue : p ≠ .void := by
        rintro rfl
        exact hvoid hletter.symm
      exact ⟨by simp [elementChars, TypeTree.ofPrimitive, hletter], nofun,
        .node ⟨hvalue, rfl, rfl⟩ nofun, nesting_lt_succ_iff.mpr nofun⟩
    · cases h

/-- Dimensions and a bound do not matter to the node of a type that may have them. -/
theorem Grammatical.bounded {t : TypeTree} (h : t.Grammatical) (hkind : t.kind ≠ .wildcard)
    (dims : UInt8) (bound : Bound) : { t with dims := dims, bound := bound }.Grammatical := by
  have hformed := h.formed
  refine .node ?_ h.args
  unfold Formed at hformed ⊢
  cases hk : t.kind with
  | wildcard => exact absurd hk hkind
  | _ =>
    rw [hk] at hformed
    exact hformed

/-- The bracket characters at the head of an input. -/
theorem takeWhile_brackets {cs : List Char} (h : ¬ 255 < (cs.takeWhile (· = '[')).length) :
    cs.takeWhile (· = '[') = brackets (UInt8.ofNat (cs.takeWhile (· = '[')).length) := by
  rw [brackets, UInt8.toNat_ofNat_of_lt' (Nat.lt_succ_of_le (Nat.le_of_not_lt h))]
  exact List.eq_replicate_of_mem fun c hc => by simpa using List.mem_takeWhile_imp hc

theorem arrayAt_spelled {levels : Nat} {inner : Nat → (cs : List Char) → Resolution cs}
    (hinner : ∀ pos cs r, inner pos cs = .ok r → Spelled levels cs r.tree r.rest) {bound : Bound}
    {pos : Nat} {cs : List Char} {r : Resolved cs} (h : arrayAt inner bound pos cs = .ok r) :
    Spelled (levels + 1) (boundMark bound ++ cs) r.tree r.rest := by
  unfold arrayAt at h
  dsimp only at h
  split at h
  · cases h
  · next hdims =>
    split at h
    · cases h
    · next element helement =>
      cases h
      obtain ⟨htext, hkind, hgrammatical, hnesting⟩ := elementAt_spelled hinner helement
      rw [nesting_lt_succ_iff] at hnesting
      refine ⟨?_, Grammatical.bounded hgrammatical hkind _ _, nesting_lt_succ_iff.mpr hnesting⟩
      have hsplit := List.takeWhile_append_dropWhile (p := fun c => decide (c = '[')) (l := cs)
      rw [htext, takeWhile_brackets hdims] at hsplit
      rw [signatureChars_eq, List.append_assoc, List.append_assoc]
      exact congrArg (boundMark bound ++ ·) hsplit.symm

/-- Whatever is resolved was spelled by the head of the input. -/
theorem typeAt_spelled {levels pos : Nat} {cs : List Char} {r : Resolved cs}
    (h : typeAt levels pos cs = .ok r) : Spelled levels cs r.tree r.rest := by
  induction levels generalizing pos cs with
  | zero => cases h
  | succ levels ih =>
    have harray {bound : Bound} {pos : Nat} {cs : List Char} {r : Resolved cs}
        (h : arrayAt (typeAt levels) bound pos cs = .ok r) :
        Spelled (levels + 1) (boundMark bound ++ cs) r.tree r.rest :=
      arrayAt_spelled (fun _ _ _ => ih) h
    generalize hlevels : levels + 1 = limit at h
    unfold typeAt at h
    split at h
    · cases hlevels
    · cases h
    · cases h
      cases hlevels
      exact ⟨rfl, .node ⟨rfl, rfl, rfl, rfl⟩ nofun, nesting_lt_succ_iff.mpr nofun⟩
    · cases hlevels
      split at h
      · cases h
      · next hr =>
        cases h
        exact harray hr
    · cases hlevels
      split at h
      · cases h
      · next hr =>
        cases h
        exact harray hr
    · cases hlevels
      exact harray h

end Signature

end EntityForge
