import EntityForge.Proofs.Machine.Detours
import Mathlib.Computability.StateTransition

/-!
Chains of calls, step by step. A method that calls another one waits for its answer, so that the
methods that run at one time form a chain. Here the chain is written out, with the depth that is
counted along it, and an evaluation goes on by one instruction, one entry or one return at a time.
It comes to what the run comes to in which calls nest.
-/

namespace EntityForge

structure MethodCall where
  self : Nat
  method : MethodDef
  args : List Value

/-- What a run comes to before any method is run for it: its answer, or a call and the answer that
each value of the method stands for. -/
inductive Pending (α : Type) where
  | done (a : α)
  | call (called : MethodCall) (resume : Value → α)

namespace Pending

variable {α β : Type}

/-- What is pending, with another answer in place of each. -/
def map (f : α → β) : Pending α → Pending β
  | done a => done (f a)
  | call called resume => call called (f ∘ resume)

/-- Makes the call that is pending. -/
def finish (callee : Callee) : Pending α → Run α
  | done a => pure a
  | call called resume => do return resume (← callee called.self called.method called.args)

theorem finish_map (callee : Callee) (f : α → β) (p : Pending α) :
    (p.map f).finish callee = (do return f (← p.finish callee)) := by
  cases p with
  | done a => rfl
  | call called resume => simp [map, finish]

end Pending

namespace Run

variable {α β : Type}

/-- Calls the method that the class of the receiver declares or inherits. -/
def callPending (receiver : Nat) (name descriptor : String) (args : List Value) :
    Run (Pending Value) := do
  let c ← classOf receiver
  match c.findMethod? name descriptor with
  | some method => return .call ⟨receiver, method, args⟩ id
  | none => throw (.noMethod (name ++ descriptor) c.name)

def constructPending (className descriptor : String) (args : List Value) : Run (Pending Nat) := do
  let c ← load className
  let id ← allocate c
  match c.declaredMethod? Construction.name descriptor with
  | some constructor => return .call ⟨id, constructor, args⟩ fun _ => id
  | none =>
    if descriptor = Construction.plain ∧ args.isEmpty then return .done id
    else throw (.noConstructor className descriptor)

def handleGetPending (h : MemberHandle) (id : Nat) : Run (Pending Value) := do
  checkReceiver h id
  match h.target with
  | .field slot _ => return .done (← read id slot)
  | .method descriptor 0 => callPending id h.name descriptor []
  | .method _ _ => throw (.notAGetter h.display)

def handleSetPending (h : MemberHandle) (id : Nat) (v : Value) : Run (Pending Unit) := do
  checkReceiver h id
  match h.target with
  | .field slot _ => return .done (← store id slot v)
  | .method descriptor 1 => return (← callPending id h.name descriptor [v]).map fun _ => ()
  | .method _ _ => throw (.notASetter h.display)

/-- Runs one instruction. Four of them may call a method; for the others it does not matter what a
call would answer. -/
def stepPending (type : MethodType) (f : Frame) : Instruction → Run (Pending Progress)
  | .invoke className name descriptor => do
    let called ← methodType descriptor
    let (args, f) ← f.popMany called.arity
    let (receiver, f) ← f.popObject
    checkInstance receiver className
    let answer ← callPending receiver name descriptor args
    return answer.map fun v => .running (if called.result.isSome then f.push v else f)
  | .new className descriptor => do
    let called ← methodType descriptor
    let (args, f) ← f.popMany called.arity
    let answer ← constructPending className descriptor args
    return answer.map fun id => .running (f.push (.object id))
  | .handleGet => do
    let (id, f) ← f.popObject
    let (handle, f) ← f.popHandle
    match handle with
    | none => throw (.nullHandle f.method.name)
    | some h =>
      let answer ← handleGetPending h id
      return answer.map fun v => .running (f.push v)
  | .handleSet entity property => do
    let (v, f) ← f.pop
    let (id, f) ← f.popObject
    let (handle, f) ← f.popHandle
    match handle with
    | none => throw (.readOnlyProperty entity property)
    | some h =>
      let answer ← handleSetPending h id v
      return answer.map fun _ => .running f
  | i => do return .done (← step (fun _ _ _ => return .null) type f i)

/-- A run that may call a method is what is pending in it and then the call. -/
def Splits (x : Callee → Run α) (p : Run (Pending α)) : Prop :=
  ∀ callee, x callee = p >>= Pending.finish callee

namespace Splits

/-- A run that calls no method. -/
theorem done (x : Run α) : Splits (fun _ => x) (do return .done (← x)) := by
  intro callee
  simp [Pending.finish]

theorem throw (e : Failure) : Splits (fun _ => (MonadExcept.throw e : Run α)) (throw e) :=
  fun _ => rfl

/-- A run that calls no method before one that may. -/
theorem bind {x : Run α} {f : Callee → α → Run β} {p : α → Run (Pending β)}
    (h : ∀ a, Splits (fun callee => f callee a) (p a)) :
    Splits (fun callee => x >>= f callee) (x >>= p) := by
  intro callee
  rw [bind_assoc]
  exact congrArg _ (funext fun a => h a callee)

/-- A run of which the answer is used after the call. -/
theorem map {x : Callee → Run α} {p : Run (Pending α)} (f : α → β) (h : Splits x p) :
    Splits (fun callee => do return f (← x callee)) (do return (← p).map f) := by
  intro callee
  simp only [h callee, bind_assoc, pure_bind, Pending.finish_map]

end Splits

theorem callWith_splits (receiver : Nat) (name descriptor : String) (args : List Value) :
    Splits (callWith · receiver name descriptor args)
      (callPending receiver name descriptor args) := by
  refine .bind fun c => ?_
  cases c.findMethod? name descriptor with
  | some method =>
    intro callee
    simp [Pending.finish]
  | none => exact .throw _

theorem constructWith_splits (className descriptor : String) (args : List Value) :
    Splits (constructWith · className descriptor args)
      (constructPending className descriptor args) := by
  refine .bind fun c => .bind fun id => ?_
  cases c.declaredMethod? Construction.name descriptor with
  | some constructor =>
    intro callee
    simp [Pending.finish]
  | none =>
    dsimp only
    split
    · exact .done (Pure.pure id)
    · exact .throw _

theorem handleGetWith_splits (h : MemberHandle) (id : Nat) :
    Splits (handleGetWith · h id) (handleGetPending h id) := by
  refine .bind fun _ => ?_
  rcases h.target with ⟨slot, type⟩ | ⟨descriptor, _ | arity⟩
  · exact .done (read id slot)
  · exact callWith_splits id h.name descriptor []
  · exact .throw _

theorem handleSetWith_splits (h : MemberHandle) (id : Nat) (v : Value) :
    Splits (handleSetWith · h id v) (handleSetPending h id v) := by
  refine .bind fun _ => ?_
  rcases h.target with ⟨slot, type⟩ | ⟨descriptor, _ | _ | arity⟩
  · exact .done (store id slot v)
  · exact .throw _
  · exact (callWith_splits id h.name descriptor [v]).map _
  · exact .throw _

theorem step_splits (type : MethodType) (f : Frame) (i : Instruction) :
    Splits (step · type f i) (stepPending type f i) := by
  cases i with
  | invoke className name descriptor =>
    exact .bind fun _ => .bind fun _ => .bind fun _ => .bind fun _ =>
      (callWith_splits _ _ _ _).map _
  | new className descriptor =>
    exact .bind fun _ => .bind fun _ => (constructWith_splits _ _ _).map _
  | handleGet =>
    refine .bind fun (id, _) => .bind fun (handle, _) => ?_
    cases handle with
    | none => exact .throw _
    | some h => exact (handleGetWith_splits h id).map _
  | handleSet entity property =>
    refine .bind fun (v, _) => .bind fun (id, _) => .bind fun (handle, _) => ?_
    cases handle with
    | none => exact .throw _
    | some h => exact (handleSetWith_splits h id v).map _
  | _ => exact .done _

/-- What a method comes to after an instruction. -/
def proceed (callee : Callee) (type : MethodType) (code : Code) : Progress → Run Value
  | .running f => runCode callee type f code
  | .finished v => return v

theorem runCode_cons (callee : Callee) (type : MethodType) (f : Frame) (i : Instruction)
    (code : Code) :
    runCode callee type f (i :: code) = step callee type f i >>= proceed callee type code := rfl

end Run

/-- What is left of a method: the instructions that follow, and how deep it is. -/
structure Scope where
  depth : Nat
  type : MethodType
  code : Code

/-- The methods that wait for an answer, the innermost first, each with the way in which it goes on
from it; and who asked outside. -/
inductive CallChain (α : Type) where
  | outside (answer : Value → α)
  | caller (scope : Scope) (resume : Value → Run.Progress) (outer : CallChain α)

inductive Evaluation (α : Type) where
  | entering (depth : Nat) (called : MethodCall) (chain : CallChain α)
  | running (scope : Scope) (f : Frame) (chain : CallChain α)
  | returning (result : Except Failure Value) (chain : CallChain α)
  | ended (result : Except Failure α)

namespace Evaluation

open Run (Progress)

variable {α : Type}

abbrev State (α : Type) := Evaluation α × Machine

/-- Enters a method, unless it is too deep. -/
def enter (depth : Nat) (called : MethodCall) : Run (MethodType × Frame) :=
  if maxCallDepth ≤ depth then
    Run.failOn called.self (.callDepthExceeded · called.method.name)
  else do
    let type ← Run.methodType called.method.descriptor
    Run.checkArguments called.method type called.args
    return (type, .enter called.method called.self called.args)

/-- Goes on with a method after an instruction of it. -/
def resume (scope : Scope) (chain : CallChain α) : Progress → Evaluation α
  | .running f => running scope f chain
  | .finished v => returning (.ok v) chain

/-- The next step of an evaluation; none if it has ended. -/
def next : State α → Option (State α)
  | (entering depth called chain, m) =>
    match (enter depth called).on m with
    | (.ok (type, f), m') => some (running ⟨depth, type, called.method.code⟩ f chain, m')
    | (.error e, m') => some (returning (.error e) chain, m')
  | (running ⟨_, _, []⟩ f chain, m) =>
    match (Run.failOn f.self (.ranPastEnd · f.method.name)).on m with
    | (result, m') => some (returning result chain, m')
  | (running ⟨depth, type, i :: code⟩ f chain, m) =>
    match (Run.stepPending type f i).on m with
    | (.ok (.done progress), m') => some (resume ⟨depth, type, code⟩ chain progress, m')
    | (.ok (.call called answer), m') =>
      some (entering (depth + 1) called (.caller ⟨depth, type, code⟩ answer chain), m')
    | (.error e, m') => some (returning (.error e) chain, m')
  | (returning result (.outside answer), m) => some (ended (result.map answer), m)
  | (returning (.ok v) (.caller scope answer outer), m) => some (resume scope outer (answer v), m)
  | (returning (.error e) (.caller _ _ outer), m) => some (returning (.error e) outer, m)
  | (ended _, _) => none

abbrev Reaches : State α → State α → Prop := StateTransition.Reaches next

theorem step_reaches {s s' s'' : State α} (h : next s = some s') (h' : Reaches s' s'') :
    Reaches s s'' := .head h h'

def answered (chain : CallChain α) (outcome : Except Failure Value × Machine) : State α :=
  (returning outcome.1 chain, outcome.2)

/-- A method that goes on after an instruction comes to what the rest of its code comes to. -/
theorem resume_reaches {callee : Callee} (scope : Scope) {chain : CallChain α}
    (hcode : ∀ f m, Reaches (running scope f chain, m)
      (answered chain ((Run.runCode callee scope.type f scope.code).on m)))
    (progress : Progress) (m : Machine) :
    Reaches (resume scope chain progress, m)
      (answered chain ((Run.proceed callee scope.type scope.code progress).on m)) := by
  cases progress with
  | running f => exact hcode f m
  | finished v => exact .refl

/-- Code comes to what it comes to with calls that nest, if the methods that it calls do. -/
theorem running_reaches {callee : Callee} {depth : Nat}
    (hcallee : ∀ (called : MethodCall) (chain : CallChain α) m,
      Reaches (entering (depth + 1) called chain, m)
        (answered chain ((callee called.self called.method called.args).on m)))
    (type : MethodType) (code : Code) (f : Frame) (chain : CallChain α) (m : Machine) :
    Reaches (running ⟨depth, type, code⟩ f chain, m)
      (answered chain ((Run.runCode callee type f code).on m)) := by
  induction code generalizing f m with
  | nil => exact .single rfl
  | cons i code ih =>
    have hresume := resume_reaches ⟨depth, type, code⟩ ih
    have hsplits : Run.step callee type f i = _ := Run.step_splits type f i callee
    rw [Run.runCode_cons, hsplits, bind_assoc, Run.on_bind]
    cases hstep : (Run.stepPending type f i).on m with
    | mk result m' =>
      cases result with
      | error e => exact step_reaches (by rw [next, hstep]; rfl) .refl
      | ok p =>
        cases p with
        | done progress => exact step_reaches (by rw [next, hstep]) (hresume progress m')
        | call called answer =>
          refine step_reaches (by rw [next, hstep]) ((hcallee called _ m').trans ?_)
          dsimp only
          rw [Pending.finish, bind_assoc, Run.on_bind]
          cases (callee called.self called.method called.args).on m' with
          | mk value m'' =>
            cases value with
            | error e => exact .single rfl
            | ok v => exact step_reaches rfl (hresume (answer v) m'')

/-- A method that may be entered runs its code. -/
theorem execute_enter {levels depth : Nat} (h : depth < maxCallDepth) (called : MethodCall) :
    Run.execute (levels + 1) called.self called.method called.args =
      enter depth called >>= fun (type, f) =>
        Run.runCode (Run.execute levels) type f called.method.code := by
  simp only [enter, if_neg (Nat.not_le.mpr h), bind_assoc, pure_bind, Run.execute]

/-- A call comes to what the method comes to with calls that nest as deep as is left. -/
theorem entering_reaches {levels depth : Nat} (h : depth + levels = maxCallDepth)
    (called : MethodCall) (chain : CallChain α) (m : Machine) :
    Reaches (entering depth called chain, m)
      (answered chain ((Run.execute levels called.self called.method called.args).on m)) := by
  induction levels generalizing depth called chain m with
  | zero =>
    have hdeep : maxCallDepth ≤ depth := by omega
    have hrefused : enter depth called = Run.failOn called.self _ := if_pos hdeep
    exact step_reaches (by rw [next, hrefused]; rfl) .refl
  | succ levels ih =>
    have hroom : depth < maxCallDepth := by omega
    rw [execute_enter hroom, Run.on_bind]
    cases henter : (enter depth called).on m with
    | mk result m' =>
      cases result with
      | error e => exact step_reaches (by rw [next, henter]; rfl) .refl
      | ok entered =>
        have hdeeper : depth + 1 + levels = maxCallDepth := by omega
        exact step_reaches (by rw [next, henter])
          (running_reaches (ih hdeeper) entered.1 called.method.code entered.2 chain m')

end Evaluation

/-! Calls from outside. -/

namespace MachineCall

/-- What a call comes to before any method is run for it. -/
def pending : MachineCall → Run (Pending MachineAnswer)
  | instantiate className descriptor args => do
    return (← Run.constructPending className descriptor args).map .object
  | invoke receiver name descriptor args => do
    return (← Run.callPending receiver name descriptor args).map .value
  | handleGet h id => do return (← Run.handleGetPending h id).map .value
  | handleSet h id v => do return (← Run.handleSetPending h id v).map fun _ => .done
  | call => do return .done (← call.run)

/-- How deep the first method of a call is. One that a handle stands for counts as called already. -/
def depth : MachineCall → Nat
  | handleGet _ _ | handleSet _ _ _ => 1
  | _ => 0

theorem depth_le (call : MachineCall) : call.depth ≤ maxCallDepth := by
  have hone : call.depth ≤ 1 := by cases call <;> simp [depth]
  exact hone.trans (by decide)

theorem run_splits (call : MachineCall) :
    call.run = call.pending >>= Pending.finish (Run.execute (maxCallDepth - call.depth)) := by
  have hdone : call.run =
      (do return .done (← call.run)) >>= Pending.finish (Run.execute maxCallDepth) :=
    Run.Splits.done call.run _
  cases call with
  | instantiate className descriptor args =>
    exact (Run.constructWith_splits className descriptor args).map MachineAnswer.object _
  | invoke receiver name descriptor args =>
    exact (Run.callWith_splits receiver name descriptor args).map MachineAnswer.value _
  | handleGet h id => exact (Run.handleGetWith_splits h id).map MachineAnswer.value _
  | handleSet h id v => exact (Run.handleSetWith_splits h id v).map (fun _ => MachineAnswer.done) _
  | getField | setField | resolveField | resolveMethod => exact hdone

/-- The first state of the evaluation of a call. -/
def begin (m : Machine) (call : MachineCall) : Evaluation.State MachineAnswer :=
  match call.pending.on m with
  | (.ok (.done a), m') => (.ended (.ok a), m')
  | (.ok (.call called answer), m') => (.entering call.depth called (.outside answer), m')
  | (.error e, m') => (.ended (.error e), m')

/-- The evaluation of a call comes to what the call comes to. -/
theorem begin_reaches (m : Machine) (call : MachineCall) :
    Evaluation.Reaches (call.begin m) (.ended (call.run.on m).1, (call.run.on m).2) := by
  rw [run_splits, Run.on_bind, begin]
  cases call.pending.on m with
  | mk result m' =>
    cases result with
    | error e => exact .refl
    | ok p =>
      cases p with
      | done a => exact .refl
      | call called answer =>
        have hdepth : call.depth + (maxCallDepth - call.depth) = maxCallDepth :=
          Nat.add_sub_cancel' call.depth_le
        refine (Evaluation.entering_reaches hdepth called (.outside answer) m').tail ?_
        dsimp only [Pending.finish]
        rw [Run.on_bind_pure]
        rfl

end MachineCall

end EntityForge
