import EntityForge.Proofs.Class.Locals
import EntityForge.Proofs.Machine.Instructions

/-!
Straight pieces of code. A method made of a straight piece and the return that its type asks for is
well-formed, since it gets the locals that it loads; and a straight piece that pushes values does so
on every machine, so the code that builds types and lists is followed without a look at either.
-/

namespace EntityForge

namespace Code

/-- An instruction that goes on to the next one and has only descriptors that resolve. -/
def StraightAt (i : Instruction) : Prop :=
  i.WellFormed ∧ i ≠ .returnValue ∧ i ≠ .returnVoid

/-- Code that goes through to its end. -/
def Straight (code : Code) : Prop := ∀ i ∈ code, StraightAt i

@[simp] theorem straight_nil : Straight [] := fun _ hi => nomatch hi

@[simp] theorem straight_cons {i : Instruction} {code : Code} :
    Straight (i :: code) ↔ StraightAt i ∧ Straight code := List.forall_mem_cons

@[simp] theorem straight_append {code code' : Code} :
    Straight (code ++ code') ↔ Straight code ∧ Straight code' := List.forall_mem_append

theorem Straight.flatten {parts : List Code} (h : ∀ code ∈ parts, Straight code) :
    Straight parts.flatten := fun i hi => by
  obtain ⟨code, hcode, hi⟩ := List.mem_flatten.mp hi
  exact h code hcode i hi

end Code

/-- The instruction with which a method of a type ends. -/
def MethodType.ending (type : MethodType) : Instruction :=
  if type.result.isSome then .returnValue else .returnVoid

/-- A method of straight code and the return of its type is well-formed. -/
theorem MethodDef.ofCode_wellFormed (code : Code) {descriptor : String} {type : MethodType}
    (hparse : MethodType.parse descriptor = .ok type) (hcode : code.Straight) (name : String)
    (flags : UInt16) :
    (MethodDef.ofCode name descriptor flags (code ++ [type.ending])).WellFormed := by
  have hlast : type.ending.WellFormed ∧ type.ending.isTerminal = true := by
    unfold MethodType.ending
    split <;> exact ⟨trivial, rfl⟩
  have hreturn : ∀ i, i ∈ code ++ [type.ending] → i = .returnValue ∨ i = .returnVoid →
      i = type.ending := by
    intro i hi hkind
    rcases List.mem_append.mp hi with hi | hi
    · obtain ⟨_, hvalue, hvoid⟩ := hcode i hi
      rcases hkind with rfl | rfl
      · exact absurd rfl hvalue
      · exact absurd rfl hvoid
    · exact List.mem_singleton.mp hi
  unfold ofCode
  rw [hparse]
  refine ⟨?_, type, hparse, ?_⟩
  · intro i hi
    rcases List.mem_append.mp hi with hi | hi
    · exact (hcode i hi).1
    · rw [List.mem_singleton.mp hi]
      exact hlast.1
  · refine ⟨Code.arguments_le_neededLocals _ _, ⟨type.ending, by simp, hlast.2⟩,
      fun i hi => Code.load_lt_neededLocals hi _, ?_, ?_⟩
    · intro hi
      have hending := hreturn _ hi (.inl rfl)
      unfold MethodType.ending at hending
      cases hresult : type.result with
      | none => simp [hresult] at hending
      | some t => simp
    · intro hi
      have hending := hreturn _ hi (.inr rfl)
      unfold MethodType.ending at hending
      cases hresult : type.result with
      | none => rfl
      | some t => simp [hresult] at hending

namespace Code

open Run

/-! Code that pushes values. -/

/-- Straight code that pushes values, the last one on top, and does nothing else. -/
structure Pushes (code : Code) (values : List Value) : Prop where
  straight : code.Straight
  moves : ∀ callee type f m, Moves callee type code f m (f.pushAll values) m

namespace Pushes

theorem nil : Pushes [] [] := ⟨straight_nil, fun _ _ f m => .nil f m⟩

theorem append {code code' : Code} {values values' : List Value} (h : Pushes code values)
    (h' : Pushes code' values') : Pushes (code ++ code') (values ++ values') where
  straight := straight_append.mpr ⟨h.straight, h'.straight⟩
  moves callee type f m := by
    have hpushed : (f.pushAll values).pushAll values' = f.pushAll (values ++ values') := by
      simp [Frame.pushAll]
    exact (h.moves callee type f m).append (hpushed ▸ h'.moves callee type (f.pushAll values) m)

/-- An instruction that pushes a value on every machine. -/
theorem single {i : Instruction} {v : Value} (hi : StraightAt i)
    (h : ∀ callee type f m, (step callee type f i).on m = (.ok (.running (f.push v)), m)) :
    Pushes [i] [v] where
  straight := straight_cons.mpr ⟨hi, straight_nil⟩
  moves callee type f m := .step (h callee type f m)

theorem pushBool (b : Bool) : Pushes [.pushBool b] [.bool b] :=
  single (by simp [StraightAt, Instruction.WellFormed]) fun _ _ _ _ => step_pushBool b

theorem loadConstant (c : Constant) : Pushes [.loadConstant c] [.ofLiteral c] :=
  single (by simp [StraightAt, Instruction.WellFormed]) fun _ _ _ _ => step_loadConstant c

theorem newEnum (typeName variant : String) :
    Pushes [.newEnum typeName variant] [.enumeration typeName variant] :=
  single (by simp [StraightAt, Instruction.WellFormed]) fun _ _ _ _ => step_newEnum typeName variant

/-- Values that are pushed are collected in a list. -/
theorem newList {code : Code} {items : List Value} (h : Pushes code items)
    (hcount : items.length ≤ 65535) :
    Pushes (code ++ [.newList (UInt16.ofNat items.length)]) [.list items] where
  straight := by simp [h.straight, StraightAt, Instruction.WellFormed]
  moves callee type f m := by
    have hn : (UInt16.ofNat items.length).toNat = items.length :=
      UInt16.toNat_ofNat_of_lt' (Nat.lt_succ_of_le hcount)
    exact (h.moves callee type f m).append (.step (step_newList items hn))

end Pushes

/-! Types and texts. -/

mutual

/-- The code that builds a type pushes the type. -/
theorem typeData_pushes {t : TypeTree} {code : Code} (h : typeData t = .ok code) :
    Pushes code [.type t] := by
  cases t with
  | mk raw args dims kind bound =>
    rw [typeData] at h
    split at h
    · cases h
    · next argsCode hargs =>
      split at h
      · next hcount =>
        cases h
        have hpushes := typeDataAll_pushes hargs
        have hargc : (UInt8.ofNat args.length).toNat = args.length :=
          UInt8.toNat_ofNat_of_lt' (Nat.lt_succ_of_le hcount)
        refine ⟨by simp [hpushes.straight, StraightAt, Instruction.WellFormed], ?_⟩
        intro callee type f m
        exact (hpushes.moves callee type f m).append (.step (step_newType args hargc))
      · cases h

theorem typeDataAll_pushes {ts : List TypeTree} {code : Code} (h : typeDataAll ts = .ok code) :
    Pushes code (ts.map .type) := by
  cases ts with
  | nil =>
    rw [typeDataAll] at h
    cases h
    exact .nil
  | cons t ts =>
    rw [typeDataAll] at h
    split at h
    · cases h
    · next first hfirst =>
      split at h
      · cases h
      · next rest hrest =>
        cases h
        exact (typeData_pushes hfirst).append (typeDataAll_pushes hrest)

end

theorem loadTexts_pushes (items : List String) :
    Pushes (items.map loadText) (items.map .text) := by
  induction items with
  | nil => exact .nil
  | cons s items ih => exact (Pushes.loadConstant (.text s)).append ih

/-- The code that builds a list of texts pushes the list. -/
theorem textList_pushes {items : List String} {code : Code} (h : textList items = .ok code) :
    Pushes code [.list (items.map .text)] := by
  unfold textList at h
  split at h
  · next hcount =>
    cases h
    have hpushes := (loadTexts_pushes items).newList (by rw [List.length_map]; exact hcount)
    rwa [List.length_map] at hpushes
  · cases h

end Code

end EntityForge
