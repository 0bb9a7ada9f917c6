import EntityForge.Class.Code
import EntityForge.Proofs.Class.WellFormed
import Mathlib.Data.List.Induction
import Mathlib.Order.Bounds.Defs

/-!
Locals of methods that are made from code. The number is kept while instructions are pushed; what it
comes to is the least one that covers the receiver, the arguments and every load. Validation derives
its own bounds and stops at the first fault: with fewer locals it reports one that is out of bounds,
unless it meets a fault before that the method has with any number of them.
-/

namespace EntityForge

namespace Code

/-! What is kept while code is pushed. -/

/-- A load that is pushed raises the highest local. -/
theorem maxLoad?_push_load (code : Code) (i : UInt8) :
    maxLoad? (code ++ [.load i]) = some ((maxLoad? code).elim i (max i)) := by
  rw [maxLoad?, List.foldl_append]
  rfl

/-- No other instruction does. -/
theorem maxLoad?_push {last : Instruction} (code : Code) (h : ∀ i, last ≠ .load i) :
    maxLoad? (code ++ [last]) = maxLoad? code := by
  rw [maxLoad?, List.foldl_append]
  cases last with
  | load i => exact absurd rfl (h i)
  | _ => rfl

/-- What bounds the highest local bounds every local that is loaded. The induction goes back over the
pushes. -/
theorem maxLoad?_lt_iff {code : Code} {n : Nat} :
    (∀ highest ∈ maxLoad? code, highest.toNat < n) ↔ ∀ i, .load i ∈ code → i.toNat < n := by
  induction code using List.reverseRecOn with
  | nil => simp [maxLoad?]
  | append_singleton code last ih =>
    by_cases hload : ∃ i, last = .load i
    · obtain ⟨i, rfl⟩ := hload
      have hmem : ∀ j, Instruction.load j ∈ code ++ [.load i] ↔ .load j ∈ code ∨ j = i := by simp
      rw [maxLoad?_push_load]
      simp only [hmem, or_imp, forall_and, forall_eq, ← ih]
      cases maxLoad? code with
      | none => simp
      | some highest =>
        simp only [Option.elim_some, Option.mem_some_iff, forall_eq', UInt8.toNat_max, Nat.max_lt]
        exact and_comm
    · have hother := not_exists.mp hload
      have hmem : ∀ j, .load j ∈ code ++ [last] ↔ .load j ∈ code := by
        intro j
        simp [Ne.symm (hother j)]
      rw [maxLoad?_push code hother, ih]
      simp only [hmem]

/-- A number of locals is enough for code exactly if it covers the receiver and the arguments, as far
as they are counted, and every local that the code loads. -/
theorem neededLocals_le_iff {arity n : Nat} {code : Code} :
    (neededLocals arity code).toNat ≤ n ↔
      min (arity + 1) 65535 ≤ n ∧ ∀ i, .load i ∈ code → i.toNat < n := by
  have hloads : ((maxLoad? code).elim 0 fun i => i.toUInt16 + 1).toNat ≤ n ↔
      ∀ highest ∈ maxLoad? code, highest.toNat < n := by
    cases maxLoad? code with
    | none => simp
    | some highest =>
      -- A local is a byte, so the number behind it does not wrap.
      have hbound := highest.toNat_lt
      simp only [Option.elim_some, Option.mem_some_iff, forall_eq', UInt16.toNat_add,
        UInt8.toNat_toUInt16, UInt16.reduceToNat]
      omega
  rw [neededLocals, UInt16.toNat_max, MethodDef.toNat_argumentLocals, Nat.max_le, hloads,
    maxLoad?_lt_iff]

example : neededLocals 2 [.returnVoid] = 3 ∧ neededLocals 0 [.load 4, .pop, .returnValue] = 5 := by
  decide

/-- Code gets every local that it loads. -/
theorem load_lt_neededLocals {code : Code} {i : UInt8} (h : .load i ∈ code) (arity : Nat) :
    i.toNat < (neededLocals arity code).toNat :=
  (neededLocals_le_iff.mp (Nat.le_refl _)).2 i h

theorem arguments_le_neededLocals (arity : Nat) (code : Code) :
    min (arity + 1) 65535 ≤ (neededLocals arity code).toNat :=
  (neededLocals_le_iff.mp (Nat.le_refl _)).1

end Code

/-! What validation reports. -/

/-- A return that contradicts the type: with a value where there is no result, or without one where
there is. -/
def MethodType.Forbids (type : MethodType) (i : Instruction) : Prop :=
  (i = .returnValue ∧ type.result = none) ∨ (i = .returnVoid ∧ type.result ≠ none)

/-- Code ends in a return or a throw. -/
def Code.Ends (code : Code) : Prop := code.getLast?.any (·.isTerminal) = true

/-- Code loads a local from a number on, and no return that the type forbids stands before. -/
def Code.LoadsFrom (code : Code) (type : MethodType) (n : Nat) : Prop :=
  ∃ before i after, code = before ++ .load i :: after ∧ n ≤ i.toNat ∧
    ∀ j ∈ before, ¬ type.Forbids j

theorem Code.LoadsFrom.mono {code : Code} {type : MethodType} {n k : Nat}
    (h : LoadsFrom code type n) (hle : k ≤ n) : LoadsFrom code type k := by
  obtain ⟨before, i, after, hcode, hi, hbefore⟩ := h
  exact ⟨before, i, after, hcode, Nat.le_trans hle hi, hbefore⟩

namespace MethodDef

def withLocals (m : MethodDef) (n : UInt16) : MethodDef := { m with maxLocals := n }

/-- Validation reports a local that is out of bounds. -/
def ReportsLocals (m : MethodDef) : Prop :=
  ∃ name index limit, m.validate = .error (.localOutOfBounds name index limit)

/-- The numbers of locals with which validation does not report one that is out of bounds. -/
def sufficientLocals (m : MethodDef) : Set UInt16 := {n | ¬ (m.withLocals n).ReportsLocals}

/-- The checks of locals that validation makes pass, each of them on its own. -/
structure CoversLocals (m : MethodDef) (type : MethodType) : Prop where
  arguments : argumentLocals type.arity ≤ m.maxLocals
  loads : ∀ i, .load i ∈ m.code → m.checkInstruction type (.load i) = .ok ()

variable {m : MethodDef} {type : MethodType} {i : Instruction} {n : UInt16} {e : FormatError}

theorem checkInstruction_eq_error :
    m.checkInstruction type i = .error e ↔
      (∃ index, i = .load index ∧ m.maxLocals.toNat ≤ index.toNat ∧
        e = .localOutOfBounds m.name index.toUInt16 m.maxLocals) ∨
      (type.Forbids i ∧ e = .returnMismatch m.name) := by
  unfold checkInstruction MethodType.Forbids
  cases i with
  | load index =>
    have hbeyond : m.maxLocals ≤ index.toUInt16 ↔ m.maxLocals.toNat ≤ index.toNat := by
      rw [UInt16.le_iff_toNat_le, UInt8.toNat_toUInt16]
    by_cases h : m.maxLocals.toNat ≤ index.toNat <;> simp [hbeyond, h, eq_comm]
  | returnValue => cases hresult : type.result <;> simp [eq_comm]
  | returnVoid => cases hresult : type.result <;> simp [eq_comm]
  | _ => simp

theorem not_forbids_of_ok (h : m.checkInstruction type i = .ok ()) : ¬ type.Forbids i := by
  intro hforbids
  rw [checkInstruction_eq_error.mpr (.inr ⟨hforbids, rfl⟩)] at h
  cases h

section Resolved

variable (hparse : MethodType.parse m.descriptor = .ok type)

include hparse

/-- Validation of a method whose descriptor resolves: the arguments, then the end, then the code in
order. -/
theorem validate_eq :
    m.validate =
      if m.maxLocals < argumentLocals type.arity then
        .error (.localOutOfBounds m.name (argumentLocals type.arity - 1) m.maxLocals)
      else if !(m.code.getLast?.any (·.isTerminal)) then .error (.missingTerminator m.name)
      else m.code.forM (m.checkInstruction type) := by
  unfold validate
  rw [checkMethodType_ok_iff.mpr hparse]
  rfl

theorem validate_few (h : m.maxLocals < argumentLocals type.arity) :
    m.validate =
      .error (.localOutOfBounds m.name (argumentLocals type.arity - 1) m.maxLocals) := by
  rw [validate_eq hparse, if_pos h]

theorem validate_open (harguments : argumentLocals type.arity ≤ m.maxLocals)
    (hopen : ¬ Code.Ends m.code) : m.validate = .error (.missingTerminator m.name) := by
  rw [validate_eq hparse, if_neg (UInt16.not_lt.mpr harguments), if_pos]
  simpa [Code.Ends] using hopen

theorem validate_code (harguments : argumentLocals type.arity ≤ m.maxLocals)
    (hends : Code.Ends m.code) : m.validate = m.code.forM (m.checkInstruction type) := by
  rw [validate_eq hparse, if_neg (UInt16.not_lt.mpr harguments), if_neg]
  simpa [Code.Ends] using hends

end Resolved

/-- Code with a load out of bounds is reported for a local, that one or one before it. The induction
is on the code before the load. -/
theorem forM_reports {k : UInt8} {before : List Instruction} (after : List Instruction)
    (hbeyond : m.maxLocals.toNat ≤ k.toNat) (hbefore : ∀ j ∈ before, ¬ type.Forbids j) :
    ∃ index, (before ++ .load k :: after).forM (m.checkInstruction type) =
      .error (.localOutOfBounds m.name index m.maxLocals) := by
  induction before with
  | nil =>
    have hload : m.checkInstruction type (.load k) =
        .error (.localOutOfBounds m.name k.toUInt16 m.maxLocals) :=
      checkInstruction_eq_error.mpr (.inl ⟨k, rfl, hbeyond, rfl⟩)
    refine ⟨k.toUInt16, ?_⟩
    rw [List.nil_append, List.forM, hload]
    rfl
  | cons first before ih =>
    obtain ⟨hfirst, hrest⟩ := List.forall_mem_cons.mp hbefore
    rw [List.cons_append, List.forM]
    cases hcheck : m.checkInstruction type first with
    | ok u => exact ih hrest
    | error e =>
      rcases checkInstruction_eq_error.mp hcheck with ⟨index, -, -, rfl⟩ | ⟨hforbids, -⟩
      · exact ⟨_, rfl⟩
      · exact absurd hforbids hfirst

/-- Validation reports a local exactly if the arguments do not fit, or if the code ends and no other
fault of it comes before a load out of bounds. -/
theorem reportsLocals_iff (hparse : MethodType.parse m.descriptor = .ok type) :
    m.ReportsLocals ↔ m.maxLocals < argumentLocals type.arity ∨
      Code.Ends m.code ∧ Code.LoadsFrom m.code type m.maxLocals.toNat := by
  unfold ReportsLocals
  by_cases hfew : m.maxLocals < argumentLocals type.arity
  · rw [validate_few hparse hfew]
    exact iff_of_true ⟨_, _, _, rfl⟩ (.inl hfew)
  have harguments := UInt16.not_lt.mp hfew
  by_cases hends : Code.Ends m.code
  · rw [validate_code hparse harguments hends]
    simp only [hfew, hends, false_or, true_and]
    constructor
    · rintro ⟨name, index, limit, herror⟩
      obtain ⟨before, x, after, hcode, hbefore, hx⟩ := Checked.forM_eq_error.mp herror
      rcases checkInstruction_eq_error.mp hx with ⟨k, rfl, hbeyond, -⟩ | ⟨-, hmismatch⟩
      · exact ⟨before, k, after, hcode, hbeyond, fun j hj => not_forbids_of_ok (hbefore j hj)⟩
      · cases hmismatch
    · rintro ⟨before, k, after, hcode, hbeyond, hbefore⟩
      rw [hcode]
      obtain ⟨index, herror⟩ := forM_reports after hbeyond hbefore
      exact ⟨m.name, index, m.maxLocals, herror⟩
  · rw [validate_open hparse harguments hends]
    simp [hfew, hends]

theorem mem_sufficientLocals_iff (hparse : MethodType.parse m.descriptor = .ok type) :
    n ∈ m.sufficientLocals ↔ argumentLocals type.arity ≤ n ∧
      ¬ (Code.Ends m.code ∧ Code.LoadsFrom m.code type n.toNat) := by
  have hreports : (m.withLocals n).ReportsLocals ↔ n < argumentLocals type.arity ∨
      Code.Ends m.code ∧ Code.LoadsFrom m.code type n.toNat := reportsLocals_iff hparse
  change ¬ (m.withLocals n).ReportsLocals ↔ _
  rw [hreports, not_or, UInt16.not_lt]

/-- A fault that is not about locals is a missing end or a forbidden return, and it is there with
every larger number of them too. -/
theorem validate_error_of_sufficient (hparse : MethodType.parse m.descriptor = .ok type)
    (hle : n ≤ m.maxLocals) (hn : n ∈ m.sufficientLocals)
    (herror : (m.withLocals n).validate = .error e) :
    m.validate = .error e ∧ (e = .missingTerminator m.name ∨ e = .returnMismatch m.name) := by
  obtain ⟨harguments, hloads⟩ := (mem_sufficientLocals_iff hparse).mp hn
  have harguments' := UInt16.le_trans harguments hle
  by_cases hends : Code.Ends m.code
  · have hcode := validate_code (m := m.withLocals n) hparse harguments hends
    obtain ⟨before, x, after, hsplit, hbefore, hx⟩ :=
      Checked.forM_eq_error.mp (hcode.symm.trans herror)
    have hkept : ∀ j ∈ before, m.checkInstruction type j = .ok () := by
      intro j hj
      obtain ⟨hload, hreturn⟩ := checkInstruction_ok_iff.mp (hbefore j hj)
      refine checkInstruction_ok_iff.mpr ⟨fun index hindex => ?_, hreturn⟩
      exact Nat.lt_of_lt_of_le (hload index hindex) (UInt16.le_iff_toNat_le.mp hle)
    rcases checkInstruction_eq_error.mp hx with ⟨k, rfl, hbeyond, -⟩ | ⟨hforbids, hmismatch⟩
    · have hfrom : Code.LoadsFrom m.code type n.toNat :=
        ⟨before, k, after, hsplit, hbeyond, fun j hj => not_forbids_of_ok (hbefore j hj)⟩
      exact absurd ⟨hends, hfrom⟩ hloads
    · have hfails : m.checkInstruction type x = .error e :=
        checkInstruction_eq_error.mpr (.inr ⟨hforbids, hmismatch⟩)
      refine ⟨?_, .inr hmismatch⟩
      rw [validate_code hparse harguments' hends]
      exact Checked.forM_eq_error.mpr ⟨before, x, after, hsplit, hkept, hfails⟩
  · have hopen := validate_open (m := m.withLocals n) hparse harguments hends
    obtain rfl : .missingTerminator m.name = e := Except.error.inj (hopen.symm.trans herror)
    exact ⟨validate_open hparse harguments' hends, .inl rfl⟩

/-! The number that a method made from code gets. -/

theorem checkInstruction_load_ok_iff {k : UInt8} :
    m.checkInstruction type (.load k) = .ok () ↔ k.toNat < m.maxLocals.toNat := by
  rw [checkInstruction_ok_iff]
  simp

theorem coversLocals_iff :
    m.CoversLocals type ↔ min (type.arity + 1) 65535 ≤ m.maxLocals.toNat ∧
      ∀ k, .load k ∈ m.code → k.toNat < m.maxLocals.toNat := by
  rw [← toNat_argumentLocals, ← UInt16.le_iff_toNat_le]
  constructor
  · intro h
    exact ⟨h.arguments, fun k hk => checkInstruction_load_ok_iff.mp (h.loads k hk)⟩
  · rintro ⟨harguments, hloads⟩
    exact ⟨harguments, fun k hk => checkInstruction_load_ok_iff.mpr (hloads k hk)⟩

theorem CoversLocals.not_reportsLocals (hparse : MethodType.parse m.descriptor = .ok type)
    (h : m.CoversLocals type) : ¬ m.ReportsLocals := by
  rw [reportsLocals_iff hparse]
  rintro (hfew | ⟨-, before, k, after, hcode, hbeyond, -⟩)
  · exact UInt16.not_lt.mpr h.arguments hfew
  · have hk := (coversLocals_iff.mp h).2 k (by simp [hcode])
    omega

theorem validate_error_of_uncovered (hparse : MethodType.parse m.descriptor = .ok type)
    (h : ¬ m.CoversLocals type) : ∃ e, m.validate = .error e := by
  refine validate_error ?_
  rintro ⟨type', hparse', hfits⟩
  cases hparse.symm.trans hparse'
  exact h (coversLocals_iff.mpr ⟨hfits.arguments, hfits.locals⟩)

/-- Where the locals are covered, no smaller number goes unreported exactly if the arguments alone
ask for it, or if the code ends and comes to a load of the last local before any other fault. -/
theorem isLeast_sufficientLocals_iff (hparse : MethodType.parse m.descriptor = .ok type)
    (h : m.CoversLocals type) :
    IsLeast m.sufficientLocals m.maxLocals ↔ m.maxLocals = argumentLocals type.arity ∨
      Code.Ends m.code ∧ Code.LoadsFrom m.code type (m.maxLocals.toNat - 1) := by
  have harguments := UInt16.le_iff_toNat_le.mp h.arguments
  constructor
  · rintro ⟨-, hleast⟩
    rw [or_iff_not_imp_left]
    intro hmore
    -- The number just below is reported, and not because of the arguments.
    have hpositive : (argumentLocals type.arity).toNat < m.maxLocals.toNat :=
      Nat.lt_of_le_of_ne harguments fun heq => hmore (UInt16.toNat_inj.mp heq.symm)
    have hbelow : (UInt16.ofNat (m.maxLocals.toNat - 1)).toNat = m.maxLocals.toNat - 1 :=
      UInt16.toNat_ofNat_of_lt' (Nat.lt_of_le_of_lt (Nat.sub_le _ 1) m.maxLocals.toNat_lt)
    by_contra hloads
    have hmem : UInt16.ofNat (m.maxLocals.toNat - 1) ∈ m.sufficientLocals := by
      rw [mem_sufficientLocals_iff hparse, UInt16.le_iff_toNat_le, hbelow]
      exact ⟨by omega, hloads⟩
    have hle := UInt16.le_iff_toNat_le.mp (hleast hmem)
    omega
  · intro hlast
    refine ⟨h.not_reportsLocals hparse, ?_⟩
    intro n hn
    obtain ⟨hcovered, hloads⟩ := (mem_sufficientLocals_iff hparse).mp hn
    rcases hlast with hequal | ⟨hends, hfrom⟩
    · rw [hequal]
      exact hcovered
    · by_contra hless
      have hless := UInt16.lt_iff_toNat_lt.mp (UInt16.not_le.mp hless)
      exact hloads ⟨hends, hfrom.mono (by omega)⟩

theorem ofCode_maxLocals {descriptor : String}
    (hparse : MethodType.parse descriptor = .ok type) (name : String) (flags : UInt16)
    (code : Code) :
    (ofCode name descriptor flags code).maxLocals = Code.neededLocals type.arity code := by
  rw [ofCode, hparse]

/-- A method that is made from any code over a descriptor that resolves gets the least number of
locals with which none of the checks of locals fails. With it or with more, validation reports no
local; with less, it reports one, or it fails as it does with the number that the method got, for a
missing end or a forbidden return. So that number is the least one with which no local is reported
exactly if the receiver and the arguments ask for it, or if the code ends and its last local is
loaded before any return that is forbidden. -/
theorem locals_exact {descriptor : String} (hparse : MethodType.parse descriptor = .ok type)
    (name : String) (flags : UInt16) (code : Code) :
    let m := ofCode name descriptor flags code
    IsLeast {n | (m.withLocals n).CoversLocals type} m.maxLocals ∧
    (∀ n, m.maxLocals ≤ n → n ∈ m.sufficientLocals) ∧
    (∀ n, n < m.maxLocals → n ∈ m.sufficientLocals →
      (m.withLocals n).validate = m.validate ∧
        (m.validate = .error (.missingTerminator name) ∨
          m.validate = .error (.returnMismatch name))) ∧
    (IsLeast m.sufficientLocals m.maxLocals ↔
      m.maxLocals = argumentLocals type.arity ∨
        Code.Ends code ∧ Code.LoadsFrom code type (m.maxLocals.toNat - 1)) := by
  intro m
  have hcovers : ∀ n, (m.withLocals n).CoversLocals type ↔ m.maxLocals ≤ n := by
    intro n
    rw [ofCode_maxLocals hparse name flags code, UInt16.le_iff_toNat_le, Code.neededLocals_le_iff]
    exact coversLocals_iff
  have hcovered : m.CoversLocals type := (hcovers m.maxLocals).mpr (UInt16.le_refl _)
  refine ⟨⟨hcovered, fun n hn => (hcovers n).mp hn⟩, ?_, ?_,
    isLeast_sufficientLocals_iff hparse hcovered⟩
  · intro n hn
    exact ((hcovers n).mpr hn).not_reportsLocals (m := m.withLocals n) hparse
  · intro n hless hn
    have huncovered : ¬ (m.withLocals n).CoversLocals type := by
      rw [hcovers, UInt16.not_le]
      exact hless
    obtain ⟨e, herror⟩ := validate_error_of_uncovered (m := m.withLocals n) hparse huncovered
    obtain ⟨hsame, hcause⟩ :=
      validate_error_of_sufficient hparse (UInt16.le_of_lt hless) hn herror
    rw [herror, hsame]
    exact ⟨rfl, hcause.imp (congrArg Except.error) (congrArg Except.error)⟩

/-- Code that loads a local beyond its argument gets that local, and one less is reported. -/
theorem locals_exact_beyond :
    MethodType.parse "(I)V" = .ok ⟨[.ofPrimitive .int], none⟩ ∧
      (ofCode "peek" "(I)V" 1 [.load 3, .pop, .returnVoid]).maxLocals = 4 ∧
      IsLeast (ofCode "peek" "(I)V" 1 [.load 3, .pop, .returnVoid]).sufficientLocals 4 := by
  have hparse : MethodType.parse "(I)V" = .ok ⟨[.ofPrimitive .int], none⟩ := by decide +kernel
  have hlocals : (ofCode "peek" "(I)V" 1 [.load 3, .pop, .returnVoid]).maxLocals = 4 := by
    decide +kernel
  obtain ⟨-, -, -, hleast⟩ := locals_exact hparse "peek" 1 [.load 3, .pop, .returnVoid]
  rw [hlocals] at hleast
  exact ⟨hparse, hlocals, hleast.mpr (.inr ⟨rfl, [], 3, _, rfl, by decide, nofun⟩)⟩

/-- Code without an end gets the local that it loads; with one local only, its missing end is
reported and no local. -/
theorem locals_unended :
    MethodType.parse "()V" = .ok ⟨[], none⟩ ∧
      (ofCode "run" "()V" 1 [.load 3]).maxLocals = 4 ∧
      ¬ IsLeast (ofCode "run" "()V" 1 [.load 3]).sufficientLocals 4 := by
  refine ⟨by decide +kernel, by decide +kernel, ?_⟩
  rintro ⟨-, hleast⟩
  have hopen : ((ofCode "run" "()V" 1 [.load 3]).withLocals 1).validate =
      .error (.missingTerminator "run") := by
    decide +kernel
  have hone : (1 : UInt16) ∈ (ofCode "run" "()V" 1 [.load 3]).sufficientLocals := by
    rintro ⟨name, index, limit, hreport⟩
    cases hopen.symm.trans hreport
  exact absurd (hleast hone) (by decide)

end MethodDef

end EntityForge
