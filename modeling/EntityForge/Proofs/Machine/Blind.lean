import EntityForge.Proofs.Machine.Matching

/-!
Code that names no hidden method. On machines that match it does the same, instruction by
instruction; so does every method, however deeply its calls nest, and every sequence of calls from
outside.
-/

namespace EntityForge

variable {hidden : List MethodRef}

/-! Frames. -/

namespace Frame

/-- No local and no operand is a handle on a hidden method. -/
structure Avoids (hidden : List MethodRef) (f : Frame) : Prop where
  locals : ∀ v ∈ f.locals, v.Avoids hidden
  stack : ∀ v ∈ f.stack, v.Avoids hidden

namespace Avoids

theorem enter (method : MethodDef) (self : Nat) {args : List Value}
    (hargs : ∀ v ∈ args, v.Avoids hidden) : (enter method self args).Avoids hidden where
  locals := by
    refine List.forall_mem_append.mpr ⟨List.forall_mem_cons.mpr ⟨trivial, hargs⟩, ?_⟩
    intro v hv
    rw [List.eq_of_mem_replicate hv]
    exact trivial
  stack := nofun

variable {f f' : Frame} {v : Value} (h : f.Avoids hidden)
include h

theorem push (hv : v.Avoids hidden) : (f.push v).Avoids hidden :=
  ⟨h.locals, List.forall_mem_cons.mpr ⟨hv, h.stack⟩⟩

theorem localAt {i : Nat} (hlocal : f.localAt i = .ok v) : v.Avoids hidden := by
  unfold Frame.localAt at hlocal
  split at hlocal
  · next hfound =>
    cases hlocal
    exact h.locals v (List.mem_of_getElem? hfound)
  · cases hlocal

theorem peek (hpeek : f.peek = .ok v) : v.Avoids hidden := by
  obtain ⟨method, self, locals, stack, drafts⟩ := f
  cases stack with
  | nil => cases hpeek
  | cons top stack =>
    cases hpeek
    exact h.stack v List.mem_cons_self

theorem pop (hpop : f.pop = .ok (v, f')) : v.Avoids hidden ∧ f'.Avoids hidden := by
  obtain ⟨method, self, locals, stack, drafts⟩ := f
  cases stack with
  | nil => cases hpop
  | cons top stack =>
    cases hpop
    exact ⟨h.stack v List.mem_cons_self,
      h.locals, fun w hw => h.stack w (List.mem_cons_of_mem v hw)⟩

theorem popMany {n : Nat} {items : List Value} (hpop : f.popMany n = .ok (items, f')) :
    (∀ v ∈ items, v.Avoids hidden) ∧ f'.Avoids hidden := by
  unfold Frame.popMany at hpop
  split at hpop
  · cases hpop
    exact ⟨fun v hv => h.stack v (List.mem_of_mem_take (List.mem_reverse.mp hv)),
      h.locals, fun v hv => h.stack v (List.mem_of_mem_drop hv)⟩
  · cases hpop

theorem popAs {α : Type} {expected : String} {as? : Value → Option α} {a : α}
    (hpop : f.popAs expected as? = .ok (a, f')) : f'.Avoids hidden := by
  obtain ⟨⟨v, f₁⟩, hfirst, hrest⟩ := Checked.bind_eq_ok.mp hpop
  dsimp only at hrest
  split at hrest
  · cases hrest
    exact (h.pop hfirst).2
  · cases hrest

theorem popObject {id : Nat} (hpop : f.popObject = .ok (id, f')) : f'.Avoids hidden := h.popAs hpop

theorem popHandle {handle : Option MemberHandle} (hpop : f.popHandle = .ok (handle, f')) :
    (∀ h, handle = some h → h.Avoids hidden) ∧ f'.Avoids hidden := by
  obtain ⟨⟨v, f₁⟩, hfirst, hrest⟩ := Checked.bind_eq_ok.mp hpop
  obtain ⟨hv, hframe⟩ := h.pop hfirst
  dsimp only at hrest
  split at hrest
  · cases hrest
    refine ⟨?_, hframe⟩
    rintro _ ⟨⟩
    exact hv
  · cases hrest
    exact ⟨nofun, hframe⟩
  · cases hrest

theorem popDraft {draft : AnnotationDraft} (hpop : f.popDraft = .ok (draft, f')) :
    f'.Avoids hidden := by
  obtain ⟨method, self, locals, stack, drafts⟩ := f
  cases drafts with
  | nil => cases hpop
  | cons first drafts =>
    cases hpop
    exact ⟨h.locals, h.stack⟩

theorem intrinsic {which : Intrinsic} {s : String} (hrun : Run.intrinsic f which = .ok (s, f')) :
    f'.Avoids hidden := by
  cases which with
  | discriminatorKey =>
    obtain ⟨⟨config, f₁⟩, hpop, hrest⟩ := Checked.bind_eq_ok.mp hrun
    cases hrest
    exact h.popAs hpop
  | collectionName | discriminator =>
    obtain ⟨⟨name, f₁⟩, hname, hrest⟩ := Checked.bind_eq_ok.mp hrun
    obtain ⟨⟨config, f₂⟩, hconfig, hrest⟩ := Checked.bind_eq_ok.mp hrest
    cases hrest
    exact (h.popAs hname).popAs hconfig

end Avoids

end Frame

theorem Value.boxed_ok {v w : Value} {p : Primitive} (h : v.boxed p = .ok w) : w = v := by
  unfold boxed at h
  split at h <;> cases h
  rfl

theorem Value.unboxed_ok {v w : Value} {p : Primitive} (h : v.unboxed p = .ok w) : w = v := by
  unfold unboxed at h
  split at h <;> cases h
  rfl

theorem Value.ofLiteral_avoids (c : Constant) : (Value.ofLiteral c).Avoids hidden := by
  cases c <;> exact trivial

namespace Run

/-- What an instruction leaves holds no handle on a hidden method. -/
def Progress.Avoids (hidden : List MethodRef) : Progress → Prop
  | running f => f.Avoids hidden
  | finished v => v.Avoids hidden

/-! Calls are blind if what they call is and no method that they name is hidden. -/

section Calls

variable {callee : Callee} {name descriptor : String} {args : List Value}
  (hcallee : ∀ self {method : MethodDef} {args : List Value}, method.Avoids hidden →
    (∀ v ∈ args, v.Avoids hidden) →
    Blind hidden (Value.Avoids hidden) (callee self method args))
include hcallee

theorem callWith_blind (receiver : Nat) (hopen : (⟨name, descriptor⟩ : MethodRef) ∉ hidden)
    (hargs : ∀ v ∈ args, v.Avoids hidden) :
    Blind hidden (Value.Avoids hidden) (callWith callee receiver name descriptor args) := by
  refine .bind (classOf_mirrors receiver) fun hc => ?_
  rw [hc.name, ← hc.findMethod? hopen]
  split
  · next method hfound => exact hcallee receiver (hc.findMethod_avoids hfound) hargs
  · exact .throw _

theorem constructWith_blind (className : String)
    (hopen : (⟨Construction.name, descriptor⟩ : MethodRef) ∉ hidden)
    (hargs : ∀ v ∈ args, v.Avoids hidden) :
    Blind hidden (fun _ => True) (constructWith callee className descriptor args) := by
  refine .bind (load_mirrors className) fun hc => .bind (allocate_mirrors hc) fun {id _} h => ?_
  obtain ⟨rfl, _⟩ := h
  rw [← hc.declaredMethod? hopen]
  split
  · next constructor hdeclared =>
    exact .bind (hcallee id (hc.declaredMethod_avoids hdeclared) hargs) fun _ =>
      .pure ⟨rfl, trivial⟩
  · exact .ite (.pure ⟨rfl, trivial⟩) (.throw _)

theorem handleGetWith_blind {h : MemberHandle} (havoids : h.Avoids hidden) (id : Nat) :
    Blind hidden (Value.Avoids hidden) (handleGetWith callee h id) := by
  refine .bind (checkReceiver_blind h id) fun _ => ?_
  unfold MemberHandle.Avoids at havoids
  split
  · exact read_blind _ _
  · next htarget =>
    rw [htarget] at havoids
    exact callWith_blind hcallee id havoids nofun
  · exact .throw _

theorem handleSetWith_blind {h : MemberHandle} (havoids : h.Avoids hidden) (id : Nat) {v : Value}
    (hv : v.Avoids hidden) : Blind hidden (fun _ => True) (handleSetWith callee h id v) := by
  refine .bind (checkReceiver_blind h id) fun _ => ?_
  unfold MemberHandle.Avoids at havoids
  split
  · exact store_blind _ _ hv
  · next htarget =>
    rw [htarget] at havoids
    exact .bind (callWith_blind hcallee id havoids (List.forall_mem_singleton.mpr hv)) fun _ =>
      .pure ⟨rfl, trivial⟩
  · exact .throw _

variable (hnew : ∀ descriptor, (⟨Construction.name, descriptor⟩ : MethodRef) ∉ hidden)
include hnew

/-- Every instruction that names no hidden method is blind. -/
theorem step_blind (type : MethodType) {f : Frame} (hframe : f.Avoids hidden) {i : Instruction}
    (hi : i.Avoids hidden) : Blind hidden (Progress.Avoids hidden) (step callee type f i) := by
  have hruns {f' : Frame} (h : f'.Avoids hidden) :
      Blind hidden (Progress.Avoids hidden) (Pure.pure (.running f')) := .pure ⟨rfl, h⟩
  cases i with
  | nop => exact hruns hframe
  | load index => exact .check fun hlocal => hruns (hframe.push (hframe.localAt hlocal))
  | dup => exact .check fun hpeek => hruns (hframe.push (hframe.peek hpeek))
  | pop => exact .check fun hpop => hruns (hframe.pop hpop).2
  | pushNull | pushBool _ | newEnum _ _ => exact hruns (hframe.push trivial)
  | loadConstant c => exact hruns (hframe.push (Value.ofLiteral_avoids c))
  | getField className name =>
    refine .check fun hpop => ?_
    have hframe := hframe.popObject hpop
    exact .bind (checkInstance_blind _ _) fun _ =>
      .bind (getField_blind _ _) fun ⟨heq, hv⟩ => heq ▸ hruns (hframe.push hv)
  | putField className name =>
    refine .check fun hpop => .check fun hpop' => ?_
    obtain ⟨hv, hframe⟩ := hframe.pop hpop
    exact .bind (checkInstance_blind _ _) fun _ =>
      .bind (setField_blind _ _ hv) fun _ => hruns (hframe.popObject hpop')
  | invoke className name descriptor =>
    refine .check fun _ => .check fun hpop => .check fun hpop' => ?_
    obtain ⟨hargs, hframe⟩ := hframe.popMany hpop
    refine .bind (checkInstance_blind _ _) fun _ =>
      .bind (callWith_blind hcallee _ hi hargs) fun ⟨heq, hv⟩ => heq ▸ hruns ?_
    split
    · exact (hframe.popObject hpop').push hv
    · exact hframe.popObject hpop'
  | new className descriptor =>
    refine .check fun _ => .check fun hpop => ?_
    obtain ⟨hargs, hframe⟩ := hframe.popMany hpop
    exact .bind (constructWith_blind hcallee className (hnew descriptor) hargs) fun ⟨heq, _⟩ =>
      heq ▸ hruns (hframe.push trivial)
  | checkCast target =>
    refine .check fun _ => .look fun hm => ?_
    rw [hm.conforms]
    exact .ite (hruns hframe) (.throw _)
  | box p =>
    refine .check fun hpop => .check fun hbox => ?_
    obtain ⟨hv, hframe⟩ := hframe.pop hpop
    exact hruns (hframe.push (Value.boxed_ok hbox ▸ hv))
  | unbox p =>
    refine .check fun hpop => .check fun hunbox => ?_
    obtain ⟨hv, hframe⟩ := hframe.pop hpop
    exact hruns (hframe.push (Value.unboxed_ok hunbox ▸ hv))
  | newType kind raw bound dims argc =>
    exact .check fun hpop => .check fun _ => hruns ((hframe.popMany hpop).2.push trivial)
  | newList n => exact .check fun hpop => hruns ((hframe.popMany hpop).2.push trivial)
  | annotationBegin typeName =>
    refine .look fun hm => ?_
    rw [hm.registry.annotations]
    exact .check fun _ => hruns ⟨hframe.locals, hframe.stack⟩
  | annotationSet element =>
    refine .check fun hpop => .check fun hpop' => .check fun _ => ?_
    obtain ⟨hlocals, hstack⟩ := (hframe.pop hpop).2.popDraft hpop'
    exact hruns ⟨hlocals, hstack⟩
  | annotationEnd =>
    refine .check fun hpop => .check fun hpop' => ?_
    exact .bind (annotate_blind _ _) fun _ =>
      hruns ((hframe.popDraft hpop).popObject hpop')
  | resolveField className name =>
    exact .bind (.adapt _ (resolveField_blind className name)) fun ⟨heq, hh⟩ =>
      heq ▸ hruns (hframe.push hh)
  | resolveMethod className name descriptor required =>
    exact .bind (bindMethod_blind className required hi) fun ⟨heq, hv⟩ =>
      heq ▸ hruns (hframe.push hv)
  | handleGet =>
    refine .check fun {popped} hpop => .check fun {popped'} hpop' => ?_
    obtain ⟨id, f₁⟩ := popped
    obtain ⟨handle, f₂⟩ := popped'
    obtain ⟨hhandle, hframe⟩ := (hframe.popObject hpop).popHandle hpop'
    cases handle with
    | none => exact .throw _
    | some h =>
      exact .bind (handleGetWith_blind hcallee (hhandle h rfl) id) fun ⟨heq, hv⟩ =>
        heq ▸ hruns (hframe.push hv)
  | handleSet entity property =>
    refine .check fun {popped} hpop => .check fun {popped'} hpop' =>
      .check fun {popped''} hpop'' => ?_
    obtain ⟨v, f₁⟩ := popped
    obtain ⟨id, f₂⟩ := popped'
    obtain ⟨handle, f₃⟩ := popped''
    obtain ⟨hv, hframe⟩ := hframe.pop hpop
    obtain ⟨hhandle, hframe⟩ := (hframe.popObject hpop').popHandle hpop''
    cases handle with
    | none => exact .throw _
    | some h =>
      exact .bind (handleSetWith_blind hcallee (hhandle h rfl) id hv) fun _ => hruns hframe
  | intrinsic which => exact .check fun hrun => hruns ((hframe.intrinsic hrun).push trivial)
  | throw message => exact failOn_blind f.self (.thrown · f.method.name message)
  | returnValue =>
    refine .check fun hpop => .look fun hm => ?_
    rw [hm.fits]
    exact .ite (.pure ⟨rfl, (hframe.pop hpop).1⟩) (.throw _)
  | returnVoid => exact .pure ⟨rfl, trivial⟩

/-- Code that names no hidden method is blind. -/
theorem runCode_blind (type : MethodType) {f : Frame} (hframe : f.Avoids hidden)
    {code : List Instruction} (hcode : ∀ i ∈ code, i.Avoids hidden) :
    Blind hidden (Value.Avoids hidden) (runCode callee type f code) := by
  induction code generalizing f with
  | nil => exact failOn_blind f.self (.ranPastEnd · f.method.name)
  | cons i rest ih =>
    obtain ⟨hi, hrest⟩ := List.forall_mem_cons.mp hcode
    refine .bind (step_blind hcallee hnew type hframe hi) fun {progress _} h => ?_
    obtain ⟨rfl, hprogress⟩ := h
    cases progress with
    | running f' => exact ih hprogress hrest
    | finished v => exact .pure ⟨rfl, hprogress⟩

end Calls

variable (hnew : ∀ descriptor, (⟨Construction.name, descriptor⟩ : MethodRef) ∉ hidden)
include hnew

/-- A method that names no hidden method is blind, however deeply its calls nest. -/
theorem execute_blind (levels self : Nat) {method : MethodDef} {args : List Value}
    (hmethod : method.Avoids hidden) (hargs : ∀ v ∈ args, v.Avoids hidden) :
    Blind hidden (Value.Avoids hidden) (execute levels self method args) := by
  induction levels generalizing self method args with
  | zero => exact failOn_blind self (.callDepthExceeded · method.name)
  | succ levels ih =>
    exact .check fun _ => .bind (checkArguments_blind _ _ _) fun _ =>
      runCode_blind (fun self _ _ => ih self) hnew _ (.enter method self hargs) hmethod

end Run

namespace MachineCall

/-- A call does not name a hidden method or pass on a handle on one. -/
def Avoids (hidden : List MethodRef) : MachineCall → Prop
  | instantiate _ _ args => ∀ v ∈ args, v.Avoids hidden
  | invoke _ name descriptor args =>
    (⟨name, descriptor⟩ : MethodRef) ∉ hidden ∧ ∀ v ∈ args, v.Avoids hidden
  | getField _ _ | resolveField _ _ => True
  | setField _ _ v => v.Avoids hidden
  | resolveMethod _ name descriptor => (⟨name, descriptor⟩ : MethodRef) ∉ hidden
  | handleGet h _ => h.Avoids hidden
  | handleSet h _ v => h.Avoids hidden ∧ v.Avoids hidden

/-- A call that names no hidden method is blind. -/
theorem run_blind (hnew : ∀ descriptor, (⟨Construction.name, descriptor⟩ : MethodRef) ∉ hidden)
    {call : MachineCall} (h : call.Avoids hidden) : Run.Blind hidden (fun _ => True) call.run := by
  have hanswers {α : Type} {P : α → Prop} {x : Run α} (hx : Run.Blind hidden P x)
      (f : α → MachineAnswer) : Run.Blind hidden (fun _ => True) (x >>= fun a => pure (f a)) :=
    .bind hx fun ⟨heq, _⟩ => heq ▸ .pure ⟨rfl, trivial⟩
  have hcallee (levels self : Nat) {method : MethodDef} {args : List Value}
      (hmethod : method.Avoids hidden) (hargs : ∀ v ∈ args, v.Avoids hidden) :=
    Run.execute_blind hnew levels self hmethod hargs
  cases call with
  | instantiate className descriptor args =>
    exact hanswers (Run.constructWith_blind (hcallee _) className (hnew descriptor) h) .object
  | invoke receiver name descriptor args =>
    exact hanswers (Run.callWith_blind (hcallee _) receiver h.1 h.2) .value
  | getField id name => exact hanswers (Run.getField_blind id name) .value
  | setField id name v => exact hanswers (Run.setField_blind id name h) fun _ => .done
  | resolveField className name => exact hanswers (Run.resolveField_blind className name) .handle
  | resolveMethod className name descriptor =>
    refine .bind (Run.resolveMethod_blind className h) fun {bound _} hbound => ?_
    obtain ⟨rfl, _⟩ := hbound
    cases bound with
    | some h => exact .pure ⟨rfl, trivial⟩
    | none => exact .pure ⟨rfl, trivial⟩
  | handleGet handle id => exact hanswers (Run.handleGetWith_blind (hcallee _) h id) .value
  | handleSet handle id v =>
    exact hanswers (Run.handleSetWith_blind (hcallee _) h.1 id h.2) fun _ => .done

end MachineCall

namespace Machine

/-- What calls answer, one after the other. -/
def answers (m : Machine) : List MachineCall → List (Except Failure MachineAnswer)
  | [] => []
  | call :: calls => (call.run.on m).1 :: (call.after m).answers calls

/-- Calls that name no hidden method are answered alike on matching machines, which still match
after them. -/
theorem Matches.session {m m' : Machine}
    (hnew : ∀ descriptor, (⟨Construction.name, descriptor⟩ : MethodRef) ∉ hidden) (h : m.Matches hidden m') {calls : List MachineCall}
    (hcalls : ∀ call ∈ calls, call.Avoids hidden) :
    m.answers calls = m'.answers calls ∧ (m.after calls).Matches hidden (m'.after calls) := by
  induction calls generalizing m m' with
  | nil => exact ⟨rfl, h⟩
  | cons call calls ih =>
    obtain ⟨hcall, hrest⟩ := List.forall_mem_cons.mp hcalls
    obtain ⟨hanswer, hafter⟩ := MachineCall.run_blind hnew hcall m m' h
    rw [MachineCall.run_after, MachineCall.run_after] at hafter
    obtain ⟨hanswers, hmatches⟩ := ih hafter hrest
    refine ⟨?_, hmatches⟩
    have hfirst : (call.run.on m).1 = (call.run.on m').1 := by
      generalize (call.run.on m).1 = x, (call.run.on m').1 = x' at hanswer
      cases hanswer with
      | ok hsame => rw [hsame.1]
      | error e => rfl
    rw [answers, answers, hfirst, hanswers]

end Machine

end EntityForge
