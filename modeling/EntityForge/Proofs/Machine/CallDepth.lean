import EntityForge.Proofs.Machine.CallChain

/-!
How deeply calls nest. The depth that is counted along a chain is the number of the methods on it,
from the depth at which the call from outside started, and a method is entered only above the limit.
A method that is too deep is not entered, and its failure goes through every method on the chain, so
that it is what the call answers.
-/

namespace EntityForge

variable {α : Type} {base : Nat}

namespace CallChain

/-- The number of methods that wait. -/
def length : CallChain α → Nat
  | outside _ => 0
  | caller _ _ outer => outer.length + 1

/-- A method that was called at the end of a chain is so deep, which is within the limit. -/
def AtDepth (base : Nat) (chain : CallChain α) (depth : Nat) : Prop :=
  depth = base + chain.length ∧ depth < maxCallDepth

/-- Every method on a chain carries its depth. -/
def Counted (base : Nat) : CallChain α → Prop
  | outside _ => True
  | caller scope _ outer => outer.AtDepth base scope.depth ∧ outer.Counted base

theorem AtDepth.length_lt {chain : CallChain α} {depth : Nat} (h : chain.AtDepth base depth) :
    chain.length < maxCallDepth := by
  obtain ⟨hdepth, hlimit⟩ := h
  omega

theorem Counted.length_le {chain : CallChain α} (h : chain.Counted base) :
    chain.length ≤ maxCallDepth := by
  cases chain with
  | outside answer => exact Nat.zero_le _
  | caller scope answer outer => exact h.1.length_lt

end CallChain

namespace Evaluation

/-- The number of methods that run or wait. -/
def frames : Evaluation α → Nat
  | entering _ _ chain | returning _ chain => chain.length
  | running _ _ chain => chain.length + 1
  | ended _ => 0

/-- The depth that is counted is that of the chain. -/
def Counted (base : Nat) : Evaluation α → Prop
  | entering depth _ chain => depth = base + chain.length ∧ chain.Counted base
  | running scope _ chain => chain.AtDepth base scope.depth ∧ chain.Counted base
  | returning _ chain => chain.Counted base
  | ended _ => True

theorem Counted.frames_le {e : Evaluation α} (h : e.Counted base) : e.frames ≤ maxCallDepth := by
  cases e with
  | entering depth called chain => exact h.2.length_le
  | running scope f chain => exact h.1.length_lt
  | returning result chain => exact CallChain.Counted.length_le h
  | ended result => exact Nat.zero_le _

/-- A method that is too deep is not entered. -/
theorem enter_deep {depth : Nat} (h : maxCallDepth ≤ depth) (called : MethodCall) (m : Machine) :
    (enter depth called).on m =
      (.error (.callDepthExceeded (m.classOf called.self).name called.method.name), m) := by
  rw [enter, if_pos h]
  rfl

theorem resume_counted (scope : Scope) {chain : CallChain α} (h : chain.AtDepth base scope.depth)
    (hchain : chain.Counted base) (progress : Run.Progress) :
    (resume scope chain progress).Counted base := by
  cases progress with
  | running f => exact ⟨h, hchain⟩
  | finished v => exact hchain

/-- Every step keeps the count. -/
theorem next_counted {s s' : State α} (h : s.1.Counted base) (hnext : next s = some s') :
    s'.1.Counted base := by
  obtain ⟨e, m⟩ := s
  cases e with
  | entering depth called chain =>
    obtain ⟨hdepth, hchain⟩ := h
    by_cases hdeep : maxCallDepth ≤ depth
    · rw [next, enter_deep hdeep called m] at hnext
      cases hnext
      exact hchain
    · rw [next] at hnext
      split at hnext
      · cases hnext
        exact ⟨⟨hdepth, Nat.not_le.mp hdeep⟩, hchain⟩
      · cases hnext
        exact hchain
  | running scope f chain =>
    obtain ⟨hscope, hchain⟩ := h
    obtain ⟨depth, type, _ | ⟨i, code⟩⟩ := scope
    · cases hnext
      exact hchain
    · rw [next] at hnext
      split at hnext
      · cases hnext
        exact resume_counted ⟨depth, type, code⟩ hscope hchain _
      · cases hnext
        -- The callee is one deeper than its caller, which waits from now on.
        exact ⟨congrArg (· + 1) hscope.1, hscope, hchain⟩
      · cases hnext
        exact hchain
  | returning result chain =>
    cases chain with
    | outside answer =>
      cases hnext
      exact trivial
    | caller scope answer outer =>
      cases result with
      | error e =>
        cases hnext
        exact h.2
      | ok v =>
        cases hnext
        exact resume_counted scope h.1 h.2 _
  | ended result => cases hnext

theorem reaches_counted {s s' : State α} (h : s.1.Counted base) (hreaches : Reaches s s') :
    s'.1.Counted base := by
  induction hreaches with
  | refl => exact h
  | tail _ hnext ih => exact next_counted ih hnext

/-- A failure goes through every method on the chain. -/
theorem error_reaches (e : Failure) (chain : CallChain α) (m : Machine) :
    Reaches (returning (.error e) chain, m) (ended (.error e), m) := by
  induction chain with
  | outside answer => exact .single rfl
  | caller scope answer outer ih => exact step_reaches rfl ih

/-- An evaluation that comes to a method that is too deep ends with the failure that says so. -/
theorem deep_reaches {depth : Nat} (h : maxCallDepth ≤ depth) (called : MethodCall)
    (chain : CallChain α) (m : Machine) :
    Reaches (entering depth called chain, m)
      (ended (.error (.callDepthExceeded (m.classOf called.self).name called.method.name)), m) :=
  step_reaches (by rw [next, enter_deep h called m]) (error_reaches _ chain m)

/-- An evaluation has one end. -/
theorem end_unique {s : State α} {r r' : Except Failure α} {m m' : Machine}
    (h : Reaches s (ended r, m)) (h' : Reaches s (ended r', m')) : r = r' ∧ m = m' := by
  have hend : (ended r, m) ∈ StateTransition.eval next s := StateTransition.mem_eval.mpr ⟨h, rfl⟩
  have hend' : (ended r', m') ∈ StateTransition.eval next s :=
    StateTransition.mem_eval.mpr ⟨h', rfl⟩
  cases Part.mem_unique hend hend'
  exact ⟨rfl, rfl⟩

end Evaluation

namespace MachineCall

open Evaluation

theorem begin_counted (m : Machine) (call : MachineCall) :
    (call.begin m).1.Counted call.depth := by
  rw [begin]
  split
  · exact trivial
  · exact ⟨rfl, trivial⟩
  · exact trivial

/-- On any machine, the evaluation of every call comes to an end, which is what the call comes to.
The methods that run or wait at one time are never more than the limit, none is entered while they
are as many as that, and an evaluation that comes to a method that would be deeper fails. -/
theorem evaluation_ends (m : Machine) (call : MachineCall) :
    StateTransition.eval next (call.begin m) =
        .some (.ended (call.run.on m).1, (call.run.on m).2) ∧
      ∀ s, Reaches (call.begin m) s →
        s.1.frames ≤ maxCallDepth ∧
        (∀ s', next s = some s' → s.1.frames < s'.1.frames → s.1.frames < maxCallDepth) ∧
        ∀ depth called chain, s.1 = .entering depth called chain →
          depth = call.depth + s.1.frames ∧
          (maxCallDepth ≤ depth →
            ∃ e, e = .callDepthExceeded (s.2.classOf called.self).name called.method.name ∧
              e.category = .invariantViolation ∧ call.run.on m = (.error e, s.2)) := by
  have hend := call.begin_reaches m
  refine ⟨Part.eq_some_iff.mpr (StateTransition.mem_eval.mpr ⟨hend, rfl⟩), fun s hs => ?_⟩
  have hcounted := reaches_counted (call.begin_counted m) hs
  refine ⟨hcounted.frames_le, fun s' hnext hmore => ?_, fun depth called chain heq => ?_⟩
  · exact Nat.lt_of_lt_of_le hmore (next_counted hcounted hnext).frames_le
  · obtain ⟨e, m'⟩ := s
    obtain rfl : e = .entering depth called chain := heq
    refine ⟨hcounted.1, fun hdeep => ?_⟩
    obtain ⟨hresult, hmachine⟩ := end_unique hend (hs.trans (deep_reaches hdeep called chain m'))
    exact ⟨_, rfl, rfl, Prod.ext hresult hmachine⟩

end MachineCall

end EntityForge
