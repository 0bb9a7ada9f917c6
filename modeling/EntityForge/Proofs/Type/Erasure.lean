import EntityForge.Proofs.Type.MethodTypes

/-!
Erased descriptors. Every resolved type has an erased descriptor that resolves again: to the type
without its arguments, its variables replaced by the class of all objects. So whatever code is
generated from the erased descriptor of a property names a type that values of the property fit.
-/

namespace EntityForge

namespace TypeTree

def erased (t : TypeTree) : TypeTree :=
  match t.kind with
  | .primitive p => { ofPrimitive p with dims := t.dims }
  | .classType => { ofClass t.raw with dims := t.dims }
  | .variable | .wildcard => { ofClass objectClass with dims := t.dims }

/-- A character that a dotted class name may have. -/
def IsNameChar (c : Char) : Prop := c ≠ '/' ∧ (c = '.' ∨ Signature.isClassNameChar c = true)

instance (c : Char) : Decidable (IsNameChar c) :=
  inferInstanceAs (Decidable (c ≠ '/' ∧ (c = '.' ∨ Signature.isClassNameChar c = true)))

/-- Characters are checked one after the other, not among all that there are. -/
theorem isNameChar_of_all {cs : List Char} (h : cs.all (fun c => decide (IsNameChar c)) = true) :
    ∀ c ∈ cs, IsNameChar c :=
  fun c hc => of_decide_eq_true (List.all_eq_true.mp h c hc)

theorem objectClass_isNameChar : ∀ c ∈ objectClass.toList, IsNameChar c :=
  isNameChar_of_all (by decide)

/-- A type as resolving yields it: a primitive has values, and a class has a proper name. -/
structure Denotable (t : TypeTree) : Prop where
  primitive : t.kind ≠ .primitive .void
  named : t.kind = .classType → t.raw.toList ≠ [] ∧ ∀ c ∈ t.raw.toList, IsNameChar c

instance (t : TypeTree) : Decidable t.Denotable :=
  decidable_of_iff (t.kind ≠ .primitive .void ∧ (t.kind = .classType →
      t.raw.toList ≠ [] ∧ t.raw.toList.all (fun c => decide (IsNameChar c)) = true))
    ⟨fun h => ⟨h.1, fun hkind => ⟨(h.2 hkind).1, isNameChar_of_all (h.2 hkind).2⟩⟩,
     fun h => ⟨h.primitive, fun hkind => ⟨(h.named hkind).1,
      List.all_eq_true.mpr fun c hc => decide_eq_true ((h.named hkind).2 c hc)⟩⟩⟩

/-- The characters of class names are those that are no marks of the grammar. -/
theorem isNameChar_iff {c : Char} : IsNameChar c ↔ c ∉ classMarks := by
  constructor
  · rintro ⟨hslash, rfl | hplain⟩
    · decide
    · have hunmarked := Signature.unmarked_of_isClassNameChar hplain
      rwa [if_neg hslash] at hunmarked
  · intro h
    refine ⟨fun heq => h (heq ▸ by decide), ?_⟩
    by_cases hdot : c = '.'
    · exact .inl hdot
    · have hplain := Signature.isClassNameChar_of_unmarked h
      rw [if_neg hdot] at hplain
      exact .inr hplain

/-- A node that its kind allows denotes a type, whatever its arguments are. -/
theorem Formed.denotable {t : TypeTree} (h : t.Formed) : t.Denotable := by
  unfold Formed at h
  constructor
  · intro hkind
    rw [hkind] at h
    exact h.1 rfl
  · intro hkind
    rw [hkind] at h
    exact ⟨by simpa using h.1, fun c hc => isNameChar_iff.mpr (h.2 c hc)⟩

/-- A type that resolving yields denotes one. -/
theorem WellFormed.denotable {t : TypeTree} (h : t.WellFormed) : t.Denotable :=
  h.grammatical.formed.denotable

/-- The erased type of a type that denotes one is resolved from its signature. -/
theorem Denotable.erased_wellFormed {t : TypeTree} (h : t.Denotable) : t.erased.WellFormed := by
  have hclass : ∀ name : String, name.toList ≠ [] → (∀ c ∈ name.toList, IsNameChar c) →
      { ofClass name with dims := t.dims }.Formed := by
    intro name hnamed hname
    have hnamed : name ≠ "" := by simpa using hnamed
    exact ⟨hnamed, fun c hc => isNameChar_iff.mp (hname c hc)⟩
  have hformed : t.erased.Formed := by
    unfold erased
    cases hkind : t.kind with
    | primitive p => exact ⟨fun heq => h.primitive (by rw [hkind, heq]), rfl, rfl⟩
    | classType => exact hclass t.raw (h.named hkind).1 (h.named hkind).2
    | «variable» | wildcard => exact hclass objectClass (by decide) objectClass_isNameChar
  have hargs : t.erased.args = [] := by
    unfold erased
    cases t.kind <;> rfl
  constructor
  · apply Grammatical.node hformed
    rw [hargs]
    exact List.forall_mem_nil _
  · apply Nat.le_of_lt_succ
    rw [nesting_lt_succ_iff, hargs]
    exact List.forall_mem_nil _

/-- The erased descriptor is the signature of the erased type. -/
theorem erased_signatureChars (t : TypeTree) : t.erased.signatureChars = t.erasedChars := by
  rw [signatureChars_eq]
  unfold erased erasedChars elementChars
  cases t.kind <;> simp [ofClass, ofPrimitive, boundMark, argumentChars]

theorem erased_signature (t : TypeTree) : t.erased.signature = t.erasedDescriptor := by
  rw [signature, erased_signatureChars, erasedDescriptor]

theorem signatureListChars_erased (types : List TypeTree) :
    signatureListChars (types.map erased) = types.flatMap erasedChars := by
  rw [signatureListChars_eq, List.flatMap_map]
  simp only [erased_signatureChars]

theorem Denotable.paren_not_mem_erasedChars {t : TypeTree} (h : t.Denotable) :
    ')' ∉ t.erasedChars := by
  have hclass : ∀ name : String, (∀ c ∈ name.toList, IsNameChar c) →
      ')' ∉ 'L' :: slashed name ++ [';'] := by
    intro name hname hmem
    have hmem : ')' ∈ slashed name := by simpa using hmem
    cases slashed_unmarked (fun c hc => isNameChar_iff.mp (hname c hc)) ')' hmem
  intro hmem
  rcases List.mem_append.mp hmem with hbracket | helement
  · exact absurd (List.eq_of_mem_replicate hbracket) (by decide)
  · cases hkind : t.kind with
    | primitive p =>
      rw [hkind] at helement
      exact absurd (List.mem_singleton.mp helement) (by cases p <;> decide)
    | classType =>
      rw [hkind] at helement
      exact hclass t.raw (h.named hkind).2 helement
    | «variable» | wildcard =>
      rw [hkind] at helement
      exact hclass objectClass objectClass_isNameChar helement

theorem erased_primitive? (t : TypeTree) : t.erased.primitive? = t.primitive? := by
  unfold erased primitive?
  cases t.kind <;> rfl

theorem erased_erasedChars (t : TypeTree) : t.erased.erasedChars = t.erasedChars := by
  unfold erased erasedChars
  cases t.kind <;> rfl

theorem erased_castName (t : TypeTree) : t.erased.castName = t.castName := by
  have hdims : t.erased.dims = t.dims := by
    unfold erased
    cases t.kind <;> rfl
  unfold castName isArray erasedDescriptor
  rw [hdims, erased_erasedChars]
  by_cases hzero : t.dims = 0
  · simp only [hzero, ne_eq, not_true_eq_false, decide_false, Bool.false_eq_true, if_false]
    unfold boxedName
    rw [erased_primitive?]
    unfold erased primitive?
    cases t.kind <;> simp [hzero, ofClass]
  · simp [hzero]

/-- The class that stands for a type that is not an array is named like a class. -/
theorem Denotable.boxedName_head {t : TypeTree} (h : t.Denotable) (harray : t.isArray = false) :
    t.boxedName.toList.head? ≠ some '[' := by
  have hdims : t.dims = 0 := by simpa [isArray] using harray
  unfold boxedName primitive?
  cases hkind : t.kind with
  | primitive p =>
    have hboxed : p.boxed.toList.head? ≠ some '[' := by cases p <;> decide
    simpa [hdims] using hboxed
  | classType =>
    intro hhead
    obtain ⟨hslash, hdot | hplain⟩ := (h.named hkind).2 '[' (List.mem_of_mem_head? hhead)
    · exact absurd hdot (by decide)
    · exact absurd hplain (by decide)
  | «variable» | wildcard =>
    have hobject : objectClass.toList.head? ≠ some '[' := by decide
    simpa [hdims] using hobject

end TypeTree

namespace Signature

open TypeTree

/-- Resolving yields types that denote one. -/
theorem parseType_denotable {s : String} {t : TypeTree} (h : parseType s = .ok t) :
    t.Denotable :=
  (spelled_of_parseType h).1.denotable

/-- The erased descriptor of a denotable type denotes the erased type. -/
theorem parseType_erased {t : TypeTree} (h : t.Denotable) :
    parseType t.erasedDescriptor = .ok t.erased := by
  rw [← erased_signature]
  exact parseType_signature h.erased_wellFormed

end Signature

namespace MethodType

open Signature

/-- The types of a method are well-formed. -/
theorem parse_wellFormed {s : String} {type : MethodType} (h : parse s = .ok type) :
    (∀ t ∈ type.params, t.WellFormed) ∧ ∀ t ∈ type.result, t.WellFormed := by
  obtain ⟨_, hspelled⟩ := parse_ok h
  exact ⟨hspelled.params, hspelled.result⟩

/-- A method descriptor that is put together from erased descriptors denotes the erased types. -/
theorem parse_erased {s : String} (params : List TypeTree) (result : Option TypeTree)
    (hparams : ∀ t ∈ params, t.Denotable) (hresult : ∀ t ∈ result, t.Denotable)
    (hs : s.toList = '(' :: (params.flatMap TypeTree.erasedChars ++
      ')' :: result.elim ['V'] TypeTree.erasedChars)) :
    parse s = .ok ⟨params.map TypeTree.erased, result.map TypeTree.erased⟩ := by
  apply parse_of_signatureChars
  · exact List.forall_mem_map.mpr fun t ht => (hparams t ht).erased_wellFormed
  · rintro _ hmem
    obtain ⟨t, ht, rfl⟩ := Option.map_eq_some_iff.mp hmem
    exact (hresult t ht).erased_wellFormed
  · rw [TypeTree.signatureListChars_erased]
    intro hmem
    obtain ⟨t, ht, hparen⟩ := List.mem_flatMap.mp hmem
    exact (hparams t ht).paren_not_mem_erasedChars hparen
  · rw [hs, signatureChars, TypeTree.signatureListChars_erased]
    cases result with
    | none => rfl
    | some t => simp [TypeTree.erased_signatureChars]

/-- The type of a method without parameters that answers an erased type. -/
theorem parse_answering {t : TypeTree} (h : t.Denotable) :
    parse ("()" ++ t.erasedDescriptor) = .ok ⟨[], some t.erased⟩ :=
  parse_returning (parseType_erased h)

/-- The type of a method that takes an erased type and answers nothing. -/
theorem parse_taking {t : TypeTree} (h : t.Denotable) :
    parse ("(" ++ t.erasedDescriptor ++ ")V") = .ok ⟨[t.erased], none⟩ := by
  have hresult : ∀ x ∈ (none : Option TypeTree), x.Denotable := fun _ hx => by cases hx
  refine parse_erased [t] none (List.forall_mem_singleton.mpr h) hresult ?_
  simp [TypeTree.erasedDescriptor]

end MethodType

end EntityForge
