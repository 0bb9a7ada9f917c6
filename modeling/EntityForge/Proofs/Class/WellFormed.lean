import EntityForge.Class.Decode
import EntityForge.Proofs.Checked

/-!
Well-formed classes: every descriptor resolves, casts and boxes name types that have values, and
every method keeps to its locals, ends, and returns what its descriptor says. The conditions are
stated on the parts of a class, without a reading order, and they can be evaluated.
-/

namespace EntityForge

def IsTypeDescriptor (descriptor : String) : Prop :=
  ∃ type, Signature.parseType descriptor = .ok type

def IsMethodDescriptor (descriptor : String) : Prop :=
  ∃ type, MethodType.parse descriptor = .ok type

instance (descriptor : String) : Decidable (IsTypeDescriptor descriptor) :=
  decidable_of_iff _ Checked.isOk_iff

instance (descriptor : String) : Decidable (IsMethodDescriptor descriptor) :=
  decidable_of_iff _ Checked.isOk_iff

theorem checkType_ok {descriptor : String} (h : IsTypeDescriptor descriptor) :
    ∃ type, checkType descriptor = .ok type := by
  obtain ⟨type, htype⟩ := h
  exact ⟨type, by rw [checkType, htype]; rfl⟩

theorem checkType_error {descriptor : String} (h : ¬ IsTypeDescriptor descriptor) :
    ∃ e, checkType descriptor = .error e := by
  unfold checkType
  cases hparse : Signature.parseType descriptor with
  | ok type => exact absurd ⟨type, hparse⟩ h
  | error e => exact ⟨_, rfl⟩

theorem checkMethodType_ok_iff {descriptor : String} {type : MethodType} :
    checkMethodType descriptor = .ok type ↔ MethodType.parse descriptor = .ok type := by
  unfold checkMethodType
  cases MethodType.parse descriptor <;> simp [Except.mapError]

theorem checkMethodType_error {descriptor : String} (h : ¬ IsMethodDescriptor descriptor) :
    ∃ e, checkMethodType descriptor = .error e := by
  cases hcheck : checkMethodType descriptor with
  | ok type => exact absurd ⟨type, checkMethodType_ok_iff.mp hcheck⟩ h
  | error e => exact ⟨e, rfl⟩

/-- An instruction whose descriptors resolve, whose array target is a type, and whose primitive has
values. -/
def Instruction.WellFormed : Instruction → Prop
  | .invoke _ _ descriptor | .new _ descriptor | .resolveMethod _ _ descriptor _ =>
    IsMethodDescriptor descriptor
  | .checkCast target => isArrayTarget target = true → IsTypeDescriptor target
  | .box p | .unbox p => p ≠ .void
  | _ => True

instance : (i : Instruction) → Decidable i.WellFormed
  | .invoke _ _ descriptor | .new _ descriptor | .resolveMethod _ _ descriptor _ =>
    inferInstanceAs (Decidable (IsMethodDescriptor descriptor))
  | .checkCast target =>
    inferInstanceAs (Decidable (isArrayTarget target = true → IsTypeDescriptor target))
  | .box p | .unbox p => inferInstanceAs (Decidable (p ≠ .void))
  | .nop | .load _ | .dup | .pop | .pushNull | .pushBool _ | .loadConstant _ | .getField _ _
  | .putField _ _ | .newType _ _ _ _ _ | .newList _ | .newEnum _ _ | .annotationBegin _
  | .annotationSet _ | .annotationEnd | .resolveField _ _ | .handleGet | .handleSet _ _
  | .intrinsic _ | .throw _ | .returnValue | .returnVoid => .isTrue trivial

/-- A method agrees with its type: the receiver and the arguments fit the locals, the code ends,
every local it loads is there, and its returns have a value exactly if the type has a result. -/
structure MethodDef.Fits (m : MethodDef) (type : MethodType) : Prop where
  arguments : min (type.arity + 1) 65535 ≤ m.maxLocals.toNat
  terminal : ∃ last, m.code.getLast? = some last ∧ last.isTerminal = true
  locals : ∀ i, .load i ∈ m.code → i.toNat < m.maxLocals.toNat
  returnValue : .returnValue ∈ m.code → type.result ≠ none
  returnVoid : .returnVoid ∈ m.code → type.result = none

/-- A method that agrees with the type its descriptor denotes, in well-formed instructions. -/
structure MethodDef.WellFormed (m : MethodDef) : Prop where
  instructions : ∀ i ∈ m.code, i.WellFormed
  fits : ∃ type, MethodType.parse m.descriptor = .ok type ∧ m.Fits type

/-- A class whose field descriptors resolve and whose methods are well-formed. -/
structure ClassBody.WellFormed (b : ClassBody) : Prop where
  fields : ∀ f ∈ b.fields, IsTypeDescriptor f.descriptor
  methods : ∀ m ∈ b.methods, m.WellFormed

namespace MethodDef

theorem toNat_argumentLocals (arity : Nat) :
    (argumentLocals arity).toNat = min (arity + 1) 65535 := by
  refine UInt16.toNat_ofNat_of_lt' (?_ : _ < 2 ^ 16)
  omega

theorem checkInstruction_ok_iff {m : MethodDef} {type : MethodType} {i : Instruction} :
    m.checkInstruction type i = .ok () ↔
      (∀ index, i = .load index → index.toNat < m.maxLocals.toNat) ∧
      (i = .returnValue → type.result ≠ none) ∧ (i = .returnVoid → type.result = none) := by
  unfold checkInstruction
  cases i with
  | load index => simp [UInt16.le_iff_toNat_le]
  | returnValue => cases hresult : type.result <;> simp
  | returnVoid => cases hresult : type.result <;> simp
  | _ => simp

/-- The checks of a method in reading order accept exactly the methods that agree with their
type. -/
theorem validate_ok_iff {m : MethodDef} :
    m.validate = .ok () ↔ ∃ type, MethodType.parse m.descriptor = .ok type ∧ m.Fits type := by
  unfold validate
  cases hcheck : checkMethodType m.descriptor with
  | error e =>
    have hnone : ∀ type, MethodType.parse m.descriptor ≠ .ok type := fun type htype => by
      rw [checkMethodType_ok_iff.mpr htype] at hcheck
      cases hcheck
    simp [bind, Except.bind, hnone]
  | ok type =>
    have hparse := checkMethodType_ok_iff.mp hcheck
    have hterminal : m.code.getLast?.any (·.isTerminal) = true ↔
        ∃ last, m.code.getLast? = some last ∧ last.isTerminal = true := by
      cases m.code.getLast? <;> simp
    simp only [bind, Except.bind, hparse, Except.ok.injEq, exists_eq_left']
    split
    · next hlocals =>
      rw [UInt16.lt_iff_toNat_lt, toNat_argumentLocals] at hlocals
      simp only [reduceCtorEq, false_iff]
      exact fun hfits => Nat.not_le_of_lt hlocals hfits.arguments
    · next hlocals =>
      rw [UInt16.lt_iff_toNat_lt, toNat_argumentLocals, Nat.not_lt] at hlocals
      split
      · next hend =>
        simp only [reduceCtorEq, false_iff]
        intro hfits
        rw [hterminal.mpr hfits.terminal] at hend
        cases hend
      · next hend =>
        simp only [Bool.not_eq_eq_eq_not, Bool.not_true, Bool.not_eq_false] at hend
        rw [Checked.forM_eq_ok]
        constructor
        · intro hall
          exact {
            arguments := hlocals
            terminal := hterminal.mp hend
            locals := fun i hi => (checkInstruction_ok_iff.mp (hall _ hi)).1 i rfl
            returnValue := fun hi => (checkInstruction_ok_iff.mp (hall _ hi)).2.1 rfl
            returnVoid := fun hi => (checkInstruction_ok_iff.mp (hall _ hi)).2.2 rfl }
        · intro hfits i hi
          refine checkInstruction_ok_iff.mpr ⟨?_, ?_, ?_⟩
          · rintro index rfl
            exact hfits.locals index hi
          · rintro rfl
            exact hfits.returnValue hi
          · rintro rfl
            exact hfits.returnVoid hi

theorem validate_error {m : MethodDef}
    (h : ¬ ∃ type, MethodType.parse m.descriptor = .ok type ∧ m.Fits type) :
    ∃ e, m.validate = .error e := by
  cases hvalid : m.validate with
  | ok u => exact absurd (validate_ok_iff.mp hvalid) h
  | error e => exact ⟨e, rfl⟩

instance (m : MethodDef) : Decidable m.WellFormed :=
  decidable_of_iff ((∀ i ∈ m.code, i.WellFormed) ∧ m.validate.isOk = true)
    ⟨fun ⟨hcode, hvalid⟩ => ⟨hcode, validate_ok_iff.mp (Checked.isOk_iff.mp hvalid).choose_spec⟩,
     fun h => ⟨h.instructions, Checked.isOk_iff.mpr ⟨(), validate_ok_iff.mpr h.fits⟩⟩⟩

end MethodDef

instance (b : ClassBody) : Decidable b.WellFormed :=
  decidable_of_iff
    ((∀ f ∈ b.fields, IsTypeDescriptor f.descriptor) ∧ ∀ m ∈ b.methods, m.WellFormed)
    ⟨fun ⟨hfields, hmethods⟩ => ⟨hfields, hmethods⟩, fun h => ⟨h.fields, h.methods⟩⟩

end EntityForge
