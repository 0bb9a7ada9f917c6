import EntityForge.Proofs.Entity.Getters
import EntityForge.Proofs.Generated.Loading
import EntityForge.Proofs.Type.MethodTypes

/-!
The class of an entity is well-formed, whatever it declares. What a method does is read off its name
and its descriptor, and the descriptor agrees with the field behind it; so the code of a getter ends
with a value exactly where the descriptor has a result. All that has to be asked of a declaration is
that its descriptors resolve, and that its fields have values to start with.
-/

namespace EntityForge

/-- Every descriptor of a class resolves, and the initializer of each field that instances have fits
the type of the field. -/
structure ClassMeta.Resolves (c : ClassMeta) : Prop where
  fields : ∀ f ∈ c.fields, IsTypeDescriptor f.descriptor
  methods : ∀ m ∈ c.methods, IsMethodDescriptor m.descriptor
  initial : ∀ f ∈ c.fields, f.has AccessFlag.isStatic = false → ∀ k, f.constant = some k →
    ∀ type, Signature.parseType f.descriptor = .ok type → ∃ v, Value.ofInitializer k type = .ok v

/-- A method agrees with its role: its descriptor is that of a getter or setter of the field. -/
def FieldRole.Suits (c : ClassMeta) (m : MethodMeta) : FieldRole → Prop
  | .reads f => f ∈ c.fields ∧ m.descriptor = "()" ++ f.descriptor
  | .writes f => f ∈ c.fields ∧ m.descriptor = "(" ++ f.descriptor ++ ")V"

namespace ClassMeta

variable {c : ClassMeta} {m : MethodMeta}

theorem role?_suits {role : FieldRole} (h : c.role? m = some role) : role.Suits c m := by
  unfold role? at h
  split at h
  · cases h
  · split at h
    · obtain ⟨f, hf, rfl⟩ := Option.map_eq_some_iff.mp h
      obtain ⟨hbehind, hdescriptor⟩ := Option.filter_eq_some_iff.mp hf
      exact ⟨(fieldBehind?_eq_some hbehind).1, of_decide_eq_true hdescriptor⟩
    · obtain ⟨suffix, _, h⟩ := Option.bind_eq_some_iff.mp h
      obtain ⟨f, hf, rfl⟩ := Option.map_eq_some_iff.mp h
      obtain ⟨hbehind, hdescriptor⟩ := Option.filter_eq_some_iff.mp hf
      exact ⟨(fieldBehind?_eq_some hbehind).1, of_decide_eq_true hdescriptor⟩

end ClassMeta

namespace MethodDef

open ClassMeta

variable {descriptor : String} {type : MethodType} (name : String) (flags : UInt16)

/-- A method that reads a field is well-formed if it has a result. -/
theorem readCode_wellFormed (hparse : MethodType.parse descriptor = .ok type)
    (hresult : type.result ≠ none) (className field : String) :
    (ofCode name descriptor flags (readCode className field)).WellFormed := by
  have hending : type.ending = .returnValue := by
    rw [MethodType.ending, if_pos (Option.isSome_iff_ne_none.mpr hresult)]
  have hcode : readCode className field =
      [Code.loadThis, .getField className field] ++ [type.ending] := by
    rw [hending]
    rfl
  rw [hcode]
  apply ofCode_wellFormed _ hparse
  simp [Code.loadThis, Code.StraightAt, Instruction.WellFormed]

/-- A method that writes a field is well-formed if it has no result. -/
theorem writeCode_wellFormed (hparse : MethodType.parse descriptor = .ok type)
    (hresult : type.result = none) (className field : String) :
    (ofCode name descriptor flags (writeCode className field)).WellFormed := by
  have hending : type.ending = .returnVoid := by
    rw [MethodType.ending, hresult]
    rfl
  have hcode : writeCode className field =
      [Code.loadThis, .load 1, .putField className field] ++ [type.ending] := by
    rw [hending]
    rfl
  rw [hcode]
  apply ofCode_wellFormed _ hparse
  simp [Code.loadThis, Code.StraightAt, Instruction.WellFormed]

/-- A method that only throws is well-formed, whatever its type. -/
theorem throw_wellFormed (hparse : MethodType.parse descriptor = .ok type) (message : String) :
    (ofCode name descriptor flags [.throw message]).WellFormed := by
  unfold ofCode
  rw [hparse]
  refine ⟨?_, type, hparse, ?_⟩
  · intro i hi
    rw [List.mem_singleton.mp hi]
    trivial
  · exact {
      arguments := Code.arguments_le_neededLocals _ _
      terminal := ⟨.throw message, rfl, rfl⟩
      locals := fun i hi => by simp at hi
      returnValue := fun hi => by simp at hi
      returnVoid := fun hi => by simp at hi }

end MethodDef

namespace ClassMeta

variable {c : ClassMeta} {m : MethodMeta}

/-- Every declared method is well-formed: the constructor, getters and setters, and the others,
which throw. -/
theorem methodCode_wellFormed (h : c.Resolves) (hm : m ∈ c.methods) :
    (MethodDef.ofCode m.name m.descriptor m.flags (c.methodCode m)).WellFormed := by
  obtain ⟨type, hparse⟩ := h.methods m hm
  unfold methodCode
  split
  · next hconstructor =>
    rw [hconstructor.2]
    exact MethodDef.ofCode_wellFormed [] MethodType.parse_plain Code.straight_nil _ _
  · split
    · next f hrole =>
      obtain ⟨hf, hdescriptor⟩ := role?_suits hrole
      obtain ⟨t, ht⟩ := h.fields f hf
      have hgetter := MethodType.parse_returning ht
      rw [← hdescriptor] at hgetter
      exact MethodDef.readCode_wellFormed _ _ hgetter (by simp) _ _
    · next f hrole =>
      obtain ⟨hf, hdescriptor⟩ := role?_suits hrole
      obtain ⟨t, ht⟩ := h.fields f hf
      -- The descriptor resolves by assumption; it is that of a setter, so it has no result.
      have hsetter := MethodType.parse_storing ht (hdescriptor ▸ hparse)
      exact MethodDef.writeCode_wellFormed _ _ hparse (by rw [hsetter]) _ _
    · exact MethodDef.throw_wellFormed _ _ hparse _

theorem injectedMethods_wellFormed {p : Property} (h : p.type.Denotable) (className : String) :
    ∀ injected ∈ injectedMethods className p, injected.WellFormed := by
  unfold injectedMethods
  simp only [List.forall_mem_cons]
  refine ⟨?_, ?_, nofun⟩
  · exact MethodDef.readCode_wellFormed _ _ (MethodType.parse_answering h) (by simp) _ _
  · exact MethodDef.writeCode_wellFormed _ _ (MethodType.parse_taking h) rfl _ _

theorem compiled_wellFormed (h : c.Resolves) : c.compiled.WellFormed where
  fields := by
    intro f hf
    obtain ⟨declared, hdeclared, rfl⟩ := List.mem_map.mp hf
    exact h.fields declared hdeclared
  methods := by
    intro m hm
    obtain ⟨declared, hdeclared, rfl⟩ := List.mem_map.mp hm
    exact methodCode_wellFormed h (List.mem_filter.mp hdeclared).1

/-- The declared fields that instances have get their slots. -/
theorem ownSlots_compiled (h : c.Resolves) :
    ∃ own, ClassRegistry.ownSlots c.compiled = .ok own := by
  apply ClassRegistry.ownSlots_of_starts
  intro f hf
  obtain ⟨hmem, hinstance⟩ := List.mem_filter.mp hf
  obtain ⟨declared, hdeclared, rfl⟩ := List.mem_map.mp hmem
  obtain ⟨type, htype⟩ := h.fields declared hdeclared
  cases hconstant : declared.constant with
  | none => exact ⟨type, Value.zero type, htype, rfl⟩
  | some k =>
    have hstatic : declared.has AccessFlag.isStatic = false := by
      simpa [FieldMeta.has] using hinstance
    obtain ⟨v, hv⟩ := h.initial declared hdeclared hstatic k hconstant type htype
    exact ⟨type, v, htype, hv⟩

end ClassMeta

theorem GenerationMode.entityBody_wellFormed (mode : GenerationMode) {c : ClassMeta} {e : Entity}
    (h : c.Resolves) (htypes : ∀ p ∈ e.properties, p.type.Denotable) :
    (mode.entityBody c e).WellFormed := by
  have hcompiled := ClassMeta.compiled_wellFormed h
  unfold entityBody
  split
  · refine ⟨hcompiled.fields, ?_⟩
    intro m hm
    rcases List.mem_append.mp hm with hm | hm
    · exact hcompiled.methods m hm
    · obtain ⟨p, hp, hm⟩ := List.mem_flatMap.mp hm
      exact ClassMeta.injectedMethods_wellFormed (htypes p hp) c.name m hm
  · exact hcompiled

/-- The methods behind a property of a class whose descriptors resolve. -/
theorem Property.FoundIn.membersResolve {c : ClassMeta} {p : Property} (hfound : p.FoundIn c)
    (h : c.Resolves) (entity : String) : (⟨entity, p⟩ : AccessorShape).MembersResolve := by
  have hdeclared {w : MethodRef} (hw : c.Declares w) : IsMethodDescriptor w.descriptor := by
    obtain ⟨_, m, hm, _, hdescriptor⟩ := hw
    exact hdescriptor ▸ h.methods m hm
  intro getter setter haccess
  cases hfound with
  | field _ _ _ _ hfield => cases hfield.symm.trans haccess
  | method getter' setter' hgetter hsetter hmethod =>
    cases hmethod.symm.trans haccess
    exact ⟨hdeclared hgetter, fun w hw => hdeclared (hsetter w hw)⟩

end EntityForge
