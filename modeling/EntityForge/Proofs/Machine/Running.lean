import EntityForge.Class.Code
import EntityForge.Machine.Execution
import EntityForge.Proofs.Class.WellFormed

/-!
Running, step by step. A run is opened by what it answers on a machine, and code by what a stretch
of it does: it moves one frame and machine to another, or it ends the method. Stretches are put
together end to end, so the code of a method is followed piece by piece. Only the two returns end a
method, and a value that is returned is checked against the type of the method on the spot. A
well-formed method returns a value exactly if its type has a result, so what it answers has that
type on the machine that it leaves.
-/

namespace EntityForge

namespace Run

variable {α β : Type} {m m' m'' : Machine}

/-- What a run answers on a machine, and the machine after it. -/
def on (x : Run α) (m : Machine) : Except Failure α × Machine := StateT.run (ExceptT.run x) m

@[simp] theorem on_pure (a : α) (m : Machine) : (pure a : Run α).on m = (.ok a, m) := rfl

@[simp] theorem on_throw (e : Failure) (m : Machine) :
    (throw e : Run α).on m = (.error e, m) := rfl

@[simp] theorem on_get (m : Machine) : (get : Run Machine).on m = (.ok m, m) := rfl

@[simp] theorem on_set (m m' : Machine) : (set m' : Run Unit).on m = (.ok (), m') := rfl

@[simp] theorem on_lift (x : Except Failure α) (m : Machine) : (liftM x : Run α).on m = (x, m) := by
  cases x <;> rfl

theorem on_bind_ok {x : Run α} {f : α → Run β} {a : α} (h : x.on m = (.ok a, m')) :
    (x >>= f).on m = (f a).on m' := Checked.run_bind_ok h

theorem on_bind_error {x : Run α} {f : α → Run β} {e : Failure} (h : x.on m = (.error e, m')) :
    (x >>= f).on m = (.error e, m') := Checked.run_bind_error h

theorem on_bind (x : Run α) (f : α → Run β) (m : Machine) :
    (x >>= f).on m =
      match x.on m with
      | (.ok a, m') => (f a).on m'
      | (.error e, m') => (.error e, m') := by
  cases hx : x.on m with
  | mk result m' =>
    cases result with
    | ok a => exact on_bind_ok hx
    | error e => exact on_bind_error hx

/-- Running on with what an answer becomes. -/
theorem on_bind_pure (x : Run α) (f : α → β) (m : Machine) :
    (x >>= fun a => pure (f a)).on m = ((x.on m).1.map f, (x.on m).2) := by
  rw [on_bind]
  cases x.on m with
  | mk result m' => cases result <;> rfl

/-- A run that answers came through its first part. -/
theorem on_bind_eq_ok {x : Run α} {f : α → Run β} {b : β} (h : (x >>= f).on m = (.ok b, m')) :
    ∃ a m₁, x.on m = (.ok a, m₁) ∧ (f a).on m₁ = (.ok b, m') := by
  rw [on_bind] at h
  cases hfirst : x.on m with
  | mk result m₁ =>
    rw [hfirst] at h
    cases result with
    | ok a => exact ⟨a, m₁, rfl, h⟩
    | error e => cases h

@[simp] theorem on_get_bind (f : Machine → Run β) (m : Machine) :
    (get >>= f).on m = (f m).on m := rfl

@[simp] theorem on_set_bind (m m' : Machine) (f : Unit → Run β) :
    ((set m' : Run Unit) >>= f).on m = (f ()).on m' := rfl

@[simp] theorem on_lift_bind_ok (a : α) (f : α → Run β) (m : Machine) :
    ((liftM (Except.ok a : Except Failure α) : Run α) >>= f).on m = (f a).on m := rfl

@[simp] theorem on_lift_bind_error (e : Failure) (f : α → Run β) (m : Machine) :
    ((liftM (Except.error e : Except Failure α) : Run α) >>= f).on m = (.error e, m) := rfl

theorem on_adapt_ok {x : Run α} {a : α} (g : Failure → Failure) (h : x.on m = (.ok a, m')) :
    on (ExceptT.adapt g x) m = (.ok a, m') := by
  have hopen : on (ExceptT.adapt g x) m = (Except.mapError g (x.on m).1, (x.on m).2) := rfl
  rw [hopen, h]
  rfl

/-! Code, stretch by stretch. -/

variable {callee : Callee} {type : MethodType} {f f' f'' : Frame}

/-- A stretch of code moves a frame and a machine to others, whatever follows it. -/
def Moves (callee : Callee) (type : MethodType) (code : Code) (f : Frame) (m : Machine)
    (f' : Frame) (m' : Machine) : Prop :=
  ∀ rest, (runCode callee type f (code ++ rest)).on m = (runCode callee type f' rest).on m'

/-- A stretch of code ends the method, whatever follows it. -/
def Ends (callee : Callee) (type : MethodType) (code : Code) (f : Frame) (m : Machine)
    (result : Except Failure Value) (m' : Machine) : Prop :=
  ∀ rest, (runCode callee type f (code ++ rest)).on m = (result, m')

theorem Moves.nil (f : Frame) (m : Machine) : Moves callee type [] f m f m := fun _ => rfl

theorem Moves.append {code code' : Code} (h : Moves callee type code f m f' m')
    (h' : Moves callee type code' f' m' f'' m'') :
    Moves callee type (code ++ code') f m f'' m'' := by
  intro rest
  rw [List.append_assoc, h, h']

theorem Moves.ends {code code' : Code} {result : Except Failure Value}
    (h : Moves callee type code f m f' m') (h' : Ends callee type code' f' m' result m'') :
    Ends callee type (code ++ code') f m result m'' := by
  intro rest
  rw [List.append_assoc, h, h']

theorem Ends.run {code : Code} {result : Except Failure Value}
    (h : Ends callee type code f m result m') : (runCode callee type f code).on m = (result, m') := by
  have hrun := h []
  rwa [List.append_nil] at hrun

theorem Moves.step {i : Instruction} (h : (step callee type f i).on m = (.ok (.running f'), m')) :
    Moves callee type [i] f m f' m' := by
  intro rest
  exact on_bind_ok h

theorem Moves.cons {i : Instruction} {code : Code}
    (h : (Run.step callee type f i).on m = (.ok (.running f'), m'))
    (h' : Moves callee type code f' m' f'' m'') : Moves callee type (i :: code) f m f'' m'' :=
  (Moves.step h).append h'

theorem Ends.finish {i : Instruction} {v : Value}
    (h : (step callee type f i).on m = (.ok (.finished v), m')) :
    Ends callee type [i] f m (.ok v) m' := by
  intro rest
  exact on_bind_ok h

theorem Ends.fail {i : Instruction} {e : Failure} (h : (step callee type f i).on m = (.error e, m')) :
    Ends callee type [i] f m (.error e) m' := by
  intro rest
  exact on_bind_error h

theorem Ends.cons {i : Instruction} {code : Code} {result : Except Failure Value}
    (h : (Run.step callee type f i).on m = (.ok (.running f'), m'))
    (h' : Ends callee type code f' m' result m'') : Ends callee type (i :: code) f m result m'' :=
  (Moves.step h).ends h'

theorem Ends.append {code : Code} {result : Except Failure Value}
    (h : Ends callee type code f m result m') (more : Code) :
    Ends callee type (code ++ more) f m result m' := by
  intro rest
  rw [List.append_assoc, h]

end Run

/-! What methods answer. -/

/-- What a method of a type may answer: a value that fits the result, or null if there is none. -/
def MethodType.Returns (type : MethodType) (m : Machine) (v : Value) : Prop :=
  match type.result with
  | some t => m.fits v t = true
  | none => v = .null

namespace Run

variable {α β : Type}

/-- What holds of every answer of a run and of the machine after it. -/
def Leaves (x : Run α) (P : α → Machine → Prop) : Prop :=
  ∀ m a m', x.on m = (.ok a, m') → P a m'

namespace Leaves

variable {P : α → Machine → Prop} {Q : β → Machine → Prop}

theorem pure {a : α} (h : ∀ m, P a m) : (Pure.pure a : Run α).Leaves P := by
  intro m b m' hrun
  cases hrun
  exact h m

theorem throw (e : Failure) : (MonadExcept.throw e : Run α).Leaves P := by
  intro m a m' hrun
  cases hrun

/-- Only the last of two runs matters. -/
theorem bind {x : Run α} {f : α → Run β} (hf : ∀ a, (f a).Leaves Q) : (x >>= f).Leaves Q := by
  intro m b m' hrun
  obtain ⟨a, m₁, _, hlast⟩ := on_bind_eq_ok hrun
  exact hf a m₁ b m' hlast

theorem ite {p : Prop} [Decidable p] {x y : Run α} (hx : x.Leaves P) (hy : y.Leaves P) :
    (if p then x else y).Leaves P := by
  split
  · exact hx
  · exact hy

end Leaves

theorem failOn_leaves (id : Nat) (failure : String → Failure) (P : α → Machine → Prop) :
    (failOn id failure).Leaves P := .bind fun _ => .throw _

/-- An answer that a return instruction may end its method with. -/
def EndsWith (type : MethodType) (v : Value) (m : Machine) (i : Instruction) : Prop :=
  i = .returnVoid ∧ v = .null ∨ i = .returnValue ∧ type.result.all (m.fits v) = true

variable (callee : Callee) (type : MethodType)

/-- Every instruction goes on with the code, apart from the two returns. -/
theorem step_leaves (f : Frame) (i : Instruction) :
    (step callee type f i).Leaves fun progress m =>
      ∀ v, progress = .finished v → EndsWith type v m i := by
  have hruns : ∀ f : Frame, (pure (.running f) : Run Progress).Leaves fun progress m =>
      ∀ v, progress = .finished v → EndsWith type v m i :=
    fun f => .pure fun _ _ => nofun
  cases i with
  | returnVoid =>
    refine .pure fun m v hv => ?_
    cases hv
    exact .inl ⟨rfl, rfl⟩
  | returnValue =>
    refine .bind fun (v, _) => ?_
    intro m progress m' hrun
    rw [on_get_bind] at hrun
    split at hrun
    · next hfits =>
      cases hrun
      rintro w hw
      cases hw
      exact .inr ⟨rfl, hfits⟩
    · cases hrun
  | nop | pushNull | pushBool _ | loadConstant _ | newEnum _ _ => exact hruns _
  | load _ | dup | pop | newList _ | intrinsic _ => exact .bind fun _ => hruns _
  | box _ | unbox _ | newType _ _ _ _ _ => exact .bind fun _ => .bind fun _ => hruns _
  | getField _ _ => exact .bind fun _ => .bind fun _ => .bind fun _ => hruns _
  | putField _ _ => exact .bind fun _ => .bind fun _ => .bind fun _ => .bind fun _ => hruns _
  | invoke _ _ _ =>
    exact .bind fun _ => .bind fun _ => .bind fun _ => .bind fun _ => .bind fun _ => hruns _
  | new _ _ => exact .bind fun _ => .bind fun _ => .bind fun _ => hruns _
  | checkCast _ => exact .bind fun _ => .bind fun _ => .ite (hruns _) (.throw _)
  | annotationBegin _ => exact .bind fun _ => .bind fun _ => hruns _
  | annotationSet _ => exact .bind fun _ => .bind fun _ => .bind fun _ => hruns _
  | annotationEnd => exact .bind fun _ => .bind fun _ => .bind fun _ => hruns _
  | resolveField _ _ | resolveMethod _ _ _ _ => exact .bind fun _ => hruns _
  | handleGet =>
    refine .bind fun _ => .bind fun (handle, _) => ?_
    cases handle with
    | none => exact .throw _
    | some _ => exact .bind fun _ => hruns _
  | handleSet _ _ =>
    refine .bind fun _ => .bind fun _ => .bind fun (handle, _) => ?_
    cases handle with
    | none => exact .throw _
    | some _ => exact .bind fun _ => hruns _
  | throw _ => exact .bind fun _ => .throw _

/-- Code that answers does so with one of its returns. -/
theorem runCode_leaves (f : Frame) (code : Code) :
    (runCode callee type f code).Leaves fun v m => ∃ i ∈ code, EndsWith type v m i := by
  induction code generalizing f with
  | nil => exact failOn_leaves _ _ _
  | cons i rest ih =>
    intro m v m' hrun
    obtain ⟨progress, m₁, hstep, hrest⟩ := on_bind_eq_ok hrun
    cases progress with
    | running f' =>
      obtain ⟨j, hj, hends⟩ := ih f' m₁ v m' hrest
      exact ⟨j, List.mem_cons_of_mem i hj, hends⟩
    | finished w =>
      cases hrest
      exact ⟨i, List.mem_cons_self, step_leaves callee type f i m _ m' hstep v rfl⟩

variable {type}

/-- The return of a method that agrees with its type answers what the type says. -/
theorem EndsWith.returns {v : Value} {m : Machine} {i : Instruction} {method : MethodDef}
    (h : EndsWith type v m i) (hfits : method.Fits type) (hi : i ∈ method.code) :
    type.Returns m v := by
  unfold MethodType.Returns
  rcases h with ⟨rfl, rfl⟩ | ⟨rfl, hvalue⟩
  · rw [hfits.returnVoid hi]
  · cases hresult : type.result with
    | none => exact absurd hresult (hfits.returnValue hi)
    | some t => rwa [hresult] at hvalue

/-- A well-formed method answers what its descriptor says. -/
theorem execute_leaves (levels self : Nat) {method : MethodDef} (args : List Value)
    (h : method.WellFormed) :
    (execute levels self method args).Leaves fun v m =>
      ∃ type, MethodType.parse method.descriptor = .ok type ∧ type.Returns m v := by
  obtain ⟨type, hparse, hfits⟩ := h.fits
  cases levels with
  | zero => exact failOn_leaves _ _ _
  | succ levels =>
    have htype : methodType method.descriptor = .ok type := by rw [methodType, hparse]; rfl
    intro m v m' hrun
    rw [execute, htype, on_lift_bind_ok] at hrun
    obtain ⟨_, m₁, _, hcode⟩ := on_bind_eq_ok hrun
    obtain ⟨i, hi, hends⟩ := runCode_leaves (execute levels) type _ method.code m₁ v m' hcode
    exact ⟨type, hparse, hends.returns hfits hi⟩

end Run

end EntityForge
