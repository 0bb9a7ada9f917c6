import EntityForge.Proofs.Machine.Guarded

/-!
Checking code once is enough. Of the guards of the machine, those against code that was not checked
never fail; and where a field is found by its name, its slot is there: a machine that does anything
else in place of the guard against a missing slot is the same machine.
-/

namespace EntityForge

/-- What is done in place of reading or writing a slot that an object does not have. -/
structure Detour where
  read (id slot : Nat) : Run Value
  write (id slot : Nat) (v : Value) : Run Unit

namespace Detour

open Run (Progress)

def getField (d : Detour) (id : Nat) (name : String) : Run Value := do
  let slot ← Run.fieldSlot id name
  let m ← get
  if slot < (m.object id).fields.length then Run.read id slot else d.read id slot

def setField (d : Detour) (id : Nat) (name : String) (v : Value) : Run Unit := do
  let slot ← Run.fieldSlot id name
  let m ← get
  if slot < (m.classOf id).slots.length ∧ slot < (m.object id).fields.length then
    Run.store id slot v
  else d.write id slot v

def annotate (d : Detour) (id : Nat) (a : Annotation) : Run Unit := do
  let known ← d.getField id annotationsField
  let items ←
    match known with
    | .list items => pure items
    | .null => pure []
    | other => throw (.annotationsFieldHolds other.kindName)
  d.setField id annotationsField (.list (items ++ [.annotationUse a]))

/-- Runs one instruction: the three that find fields by name, and all others as they are. -/
def step (d : Detour) (callee : Callee) (type : MethodType) (f : Frame) : Instruction → Run Progress
  | .getField className name => do
    let (id, f) ← f.popObject
    Run.checkInstance id className
    let v ← d.getField id name
    return .running (f.push v)
  | .putField className name => do
    let (v, f) ← f.pop
    let (id, f) ← f.popObject
    Run.checkInstance id className
    d.setField id name v
    return .running f
  | .annotationEnd => do
    let (draft, f) ← f.popDraft
    let (id, f) ← f.popObject
    d.annotate id draft.build
    return .running f
  | i => Run.step callee type f i

def runCode (d : Detour) (callee : Callee) (type : MethodType) (f : Frame) :
    List Instruction → Run Value
  | [] => Run.failOn f.self (.ranPastEnd · f.method.name)
  | instruction :: rest => do
    match ← d.step callee type f instruction with
    | .running f => d.runCode callee type f rest
    | .finished v => return v

/-- Runs a method where `levels` further calls may nest. -/
def execute (d : Detour) : (levels : Nat) → Callee
  | 0, self, method, _ => Run.failOn self (.callDepthExceeded · method.name)
  | levels + 1, self, method, args => do
    let type ← Run.methodType method.descriptor
    Run.checkArguments method type args
    d.runCode (d.execute levels) type (.enter method self args) method.code

end Detour

inductive MachineAnswer where
  | object (id : Nat)
  | value (v : Value)
  | done
  | handle (h : MemberHandle)
  | noMethod

namespace MachineCall

/-- Runs a call with a way to run methods and ways to read and write fields by name. -/
def runWith (execute : Nat → Callee) (getField : Nat → String → Run Value)
    (setField : Nat → String → Value → Run Unit) : MachineCall → Run MachineAnswer
  | instantiate className descriptor args => do
    return .object (← Run.constructWith (execute maxCallDepth) className descriptor args)
  | invoke receiver name descriptor args => do
    return .value (← Run.callWith (execute maxCallDepth) receiver name descriptor args)
  | .getField id name => do return .value (← getField id name)
  | .setField id name v => do
    setField id name v
    return .done
  | resolveField className name => do return .handle (← Run.resolveField className name)
  | resolveMethod className name descriptor => do
    match ← Run.resolveMethod className name descriptor with
    | some h => return .handle h
    | none => return .noMethod
  | handleGet h id => do
    return .value (← Run.handleGetWith (execute (maxCallDepth - 1)) h id)
  | handleSet h id v => do
    Run.handleSetWith (execute (maxCallDepth - 1)) h id v
    return .done

def run : MachineCall → Run MachineAnswer := runWith Run.execute Run.getField Run.setField

/-- Runs a call on the machine with a detour. -/
def runBy (d : Detour) : MachineCall → Run MachineAnswer := runWith d.execute d.getField d.setField

theorem run_after (m : Machine) (call : MachineCall) : (call.run.on m).2 = call.after m := by
  -- Naming what a run answers changes nothing else.
  have hthen {α : Type} (x : Run α) {f : α → Run MachineAnswer} (hf : ∀ a m, ((f a).on m).2 = m) :
      ((x >>= f).on m).2 = (x.on m).2 := by
    rw [Run.on_bind]
    cases x.on m with
    | mk result m' =>
      cases result with
      | ok a => exact hf a m'
      | error e => rfl
  cases call with
  | resolveMethod className name descriptor =>
    refine hthen _ fun handle m => ?_
    cases handle <;> rfl
  | _ => exact hthen _ fun _ _ => rfl

end MachineCall

namespace Run

/-- What an instruction leaves: if the code goes on, the locals are as before, and the instruction
is not one that ends a method. -/
def GoesOn (f : Frame) (i : Instruction) (progress : Progress) : Prop :=
  ∀ f', progress = .running f' → f'.locals = f.locals ∧ i.isTerminal = false

variable (d : Detour)

theorem getField_guarded (id : Nat) (name : String) :
    Guarded (getField id name) (d.getField id name) fun _ => True := by
  intro m hm
  cases hslot : (m.classOf id).slot? name with
  | none =>
    have hfails := fieldSlot_none hslot
    rw [getField, Detour.getField, on_bind_error hfails, on_bind_error hfails]
    exact ⟨rfl, rfl⟩
  | some slot =>
    have hfound := fieldSlot_on hslot
    rw [getField, Detour.getField, on_bind_ok hfound, on_bind_ok hfound, on_get_bind,
      if_pos (hm.slot_exists hslot).2]
    exact read_guarded id slot m hm

theorem setField_guarded (id : Nat) (name : String) (v : Value) :
    Guarded (setField id name v) (d.setField id name v) fun _ => True := by
  intro m hm
  cases hslot : (m.classOf id).slot? name with
  | none =>
    have hfails := fieldSlot_none hslot
    rw [setField, Detour.setField, on_bind_error hfails, on_bind_error hfails]
    exact ⟨rfl, rfl⟩
  | some slot =>
    have hfound := fieldSlot_on hslot
    rw [setField, Detour.setField, on_bind_ok hfound, on_bind_ok hfound, on_get_bind,
      if_pos (hm.slot_exists hslot)]
    exact store_guarded id slot v m hm

theorem annotate_guarded (id : Nat) (a : Annotation) :
    Guarded (annotate id a) (d.annotate id a) fun _ => True := by
  refine .bind (getField_acting id _) (getField_guarded d id _) fun known _ => ?_
  cases known with
  | list items => exact setField_guarded d _ _ _
  | null => exact setField_guarded d _ _ _
  | _ =>
    exact .bind (P := fun _ => True) (.throw _) (.throw rfl) fun _ _ => setField_guarded d _ _ _

section Steps

variable {callee callee' : Callee}
  (hacting : ∀ self method args, (callee self method args).Acting)
  (hcallee : ∀ self method args, method.WellFormed →
    Guarded (callee self method args) (callee' self method args) fun _ => True)
include hacting hcallee

/-- Every instruction is guarded if it is well-formed and the local that it loads is there. -/
theorem step_guarded (type : MethodType) (f : Frame) {i : Instruction} (hwell : i.WellFormed)
    (hlocals : ∀ index, i = .load index → index.toNat < f.locals.length) :
    Guarded (step callee type f i) (d.step callee' type f i) (GoesOn f i) := by
  have hruns {f' : Frame} (hkeeps : f'.locals = f.locals) (hgoes : i.isTerminal = false) :
      Guarded (pure (.running f')) (pure (.running f')) (GoesOn f i) := by
    refine .pure fun f'' heq => ?_
    cases heq
    exact ⟨hkeeps, hgoes⟩
  cases i with
  | nop | pushNull | pushBool _ | loadConstant _ | newEnum _ _ => exact hruns rfl rfl
  | load index => exact .check (f.localAt_answers (hlocals index rfl)) fun _ _ => hruns rfl rfl
  | dup => exact .check f.peek_answers fun _ _ => hruns rfl rfl
  | pop => exact .check f.pop_answers fun _ hpop => hruns hpop rfl
  | getField className name =>
    refine .check f.popObject_answers fun ⟨id, f'⟩ hpop => ?_
    exact .bind (checkInstance_acting _ _) (checkInstance_guarded _ _) fun _ _ =>
      .bind (getField_acting _ _) (getField_guarded d _ _) fun _ _ => hruns hpop rfl
  | putField className name =>
    refine .check f.pop_answers fun ⟨v, f₁⟩ hpop => ?_
    refine .check f₁.popObject_answers fun ⟨id, f₂⟩ hpop' => ?_
    exact .bind (checkInstance_acting _ _) (checkInstance_guarded _ _) fun _ _ =>
      .bind (setField_acting _ _ _) (setField_guarded d _ _ _) fun _ _ =>
        hruns (hpop'.trans hpop) rfl
  | invoke className name descriptor =>
    refine .check (methodType_answers hwell) fun called _ => ?_
    refine .check (f.popMany_answers _) fun ⟨args, f₁⟩ hpop => ?_
    refine .check f₁.popObject_answers fun ⟨receiver, f₂⟩ hpop' => ?_
    refine .bind (checkInstance_acting _ _) (checkInstance_guarded _ _) fun _ _ => ?_
    refine .bind (callWith_acting hacting _ _ _ _) (callWith_guarded hcallee _ _ _ _)
      fun v _ => hruns ?_ rfl
    split
    · exact hpop'.trans hpop
    · exact hpop'.trans hpop
  | new className descriptor =>
    refine .check (methodType_answers hwell) fun called _ => ?_
    refine .check (f.popMany_answers _) fun ⟨args, f₁⟩ hpop => ?_
    exact .bind (constructWith_acting hacting _ _ _) (constructWith_guarded hacting hcallee _ _ _)
      fun _ _ => hruns hpop rfl
  | checkCast target =>
    exact .check f.peek_answers fun _ _ => .look fun _ => .ite (hruns rfl rfl) (.throw rfl)
  | box p =>
    exact .check f.pop_answers fun ⟨v, _⟩ hpop =>
      .check (v.boxed_answers p) fun _ _ => hruns hpop rfl
  | unbox p =>
    exact .check f.pop_answers fun ⟨v, _⟩ hpop =>
      .check (v.unboxed_answers p) fun _ _ => hruns hpop rfl
  | newType kind raw bound dims argc =>
    exact .check (f.popMany_answers _) fun ⟨items, _⟩ hpop =>
      .check (.mapM Value.toType_answers items) fun _ _ => hruns hpop rfl
  | newList n => exact .check (f.popMany_answers _) fun _ hpop => hruns hpop rfl
  | annotationBegin typeName =>
    exact .look fun m => .check (m.registry.annotations.draft_answers typeName) fun _ _ =>
      hruns rfl rfl
  | annotationSet element =>
    refine .check f.pop_answers fun ⟨v, f₁⟩ hpop => ?_
    refine .check f₁.popDraft_answers fun ⟨draft, f₂⟩ hpop' => ?_
    exact .check (draft.set_answers element v) fun _ _ => hruns (hpop'.trans hpop) rfl
  | annotationEnd =>
    refine .check f.popDraft_answers fun ⟨draft, f₁⟩ hpop => ?_
    refine .check f₁.popObject_answers fun ⟨id, f₂⟩ hpop' => ?_
    exact .bind (annotate_acting _ _) (annotate_guarded d _ _) fun _ _ =>
      hruns (hpop'.trans hpop) rfl
  | resolveField className name =>
    exact .bind (.adapt _ (resolveField_acting className name))
      (.missing _ _ (resolveField_guarded className name)) fun _ _ => hruns rfl rfl
  | resolveMethod className name descriptor required =>
    exact .bind (bindMethod_acting _ _ _ _) (bindMethod_guarded _ _ _ _) fun _ _ => hruns rfl rfl
  | handleGet =>
    refine .check f.popObject_answers fun ⟨id, f₁⟩ hpop => ?_
    refine .check f₁.popHandle_answers fun ⟨handle, f₂⟩ hpop' => ?_
    cases handle with
    | none => exact .throw rfl
    | some h =>
      exact .bind (handleGetWith_acting hacting h id) (handleGetWith_guarded hcallee h id)
        fun _ _ => hruns (hpop'.trans hpop) rfl
  | handleSet entity property =>
    refine .check f.pop_answers fun ⟨v, f₁⟩ hpop => ?_
    refine .check f₁.popObject_answers fun ⟨id, f₂⟩ hpop' => ?_
    refine .check f₂.popHandle_answers fun ⟨handle, f₃⟩ hpop'' => ?_
    cases handle with
    | none => exact .throw rfl
    | some h =>
      exact .bind (handleSetWith_acting hacting h id v)
        (handleSetWith_guarded hacting hcallee h id v)
        fun _ _ => hruns (hpop''.trans (hpop'.trans hpop)) rfl
  | intrinsic which =>
    exact .check (f.intrinsic_answers which) fun _ hpop => hruns hpop rfl
  | throw message =>
    show Guarded (failOn f.self (.thrown · f.method.name message))
      (failOn f.self (.thrown · f.method.name message)) _
    exact failOn_guarded f.self fun _ => rfl
  | returnValue =>
    refine .check f.pop_answers fun ⟨v, _⟩ _ => .look fun m => .ite (.pure ?_) (.throw rfl)
    nofun
  | returnVoid => exact .pure nofun

/-- Code is guarded if its instructions are, and if its last one ends it. -/
theorem runCode_guarded (type : MethodType) (f : Frame) {code : List Instruction}
    (hwell : ∀ i ∈ code, i.WellFormed)
    (hlocals : ∀ index, .load index ∈ code → index.toNat < f.locals.length)
    (hends : code.getLast?.any (·.isTerminal) = true) :
    Guarded (runCode callee type f code) (d.runCode callee' type f code) fun _ => True := by
  induction code generalizing f with
  | nil => cases hends
  | cons i rest ih =>
    refine .bind (step_acting hacting type f i) (step_guarded d hacting hcallee type f
      (hwell i List.mem_cons_self) fun index heq => hlocals index (heq ▸ List.mem_cons_self))
      fun progress hgoes => ?_
    cases progress with
    | finished v => exact .pure trivial
    | running f' =>
      obtain ⟨hkeeps, hgoes⟩ := hgoes f' rfl
      refine ih f' (fun j hj => hwell j (List.mem_cons_of_mem i hj)) (fun index hmem => ?_) ?_
      · rw [hkeeps]
        exact hlocals index (List.mem_cons_of_mem i hmem)
      · cases rest with
        | nil =>
          have hterminal : i.isTerminal = true := hends
          rw [hgoes] at hterminal
          cases hterminal
        | cons j rest => rwa [List.getLast?_cons_cons] at hends

end Steps

/-- A well-formed method is guarded, however deeply its calls nest. -/
theorem execute_guarded (levels self : Nat) {method : MethodDef} (args : List Value)
    (hwell : method.WellFormed) :
    Guarded (execute levels self method args) (d.execute levels self method args)
      fun _ => True := by
  induction levels generalizing self method args with
  | zero => exact failOn_guarded _ fun _ => rfl
  | succ levels ih =>
    obtain ⟨type, hparse, hfits⟩ := hwell.fits
    refine .check (methodType_answers ⟨type, hparse⟩) fun type' hparse' => ?_
    obtain rfl : type = type' := Except.ok.inj (hparse.symm.trans hparse')
    refine .bind (checkArguments_acting _ _ _) (checkArguments_guarded _ _ _) fun _ _ => ?_
    refine runCode_guarded d (execute_acting levels) (fun self _ args h => ih self args h) type _
      hwell.instructions (fun index hmem => ?_) ?_
    · refine Nat.lt_of_lt_of_le (hfits.locals index hmem) ?_
      simp only [Frame.enter, List.length_append, List.length_replicate]
      omega
    · obtain ⟨last, hlast, hterminal⟩ := hfits.terminal
      rw [hlast]
      exact hterminal

end Run

/-- Every call is guarded, whoever makes it and with whatever arguments. -/
theorem MachineCall.run_guarded (d : Detour) (call : MachineCall) :
    Run.Guarded call.run (call.runBy d) fun _ => True := by
  have hacting := Run.execute_acting
  have hexecute (levels self : Nat) (method : MethodDef) (args : List Value)
      (h : method.WellFormed) := Run.execute_guarded d levels self args h
  cases call with
  | instantiate className descriptor args =>
    exact .bind (Run.constructWith_acting (hacting _) _ _ _)
      (Run.constructWith_guarded (hacting _) (hexecute _) _ _ _) fun _ _ => .pure trivial
  | invoke receiver name descriptor args =>
    exact .bind (Run.callWith_acting (hacting _) _ _ _ _)
      (Run.callWith_guarded (hexecute _) _ _ _ _) fun _ _ => .pure trivial
  | getField id name =>
    exact .bind (Run.getField_acting id name) (Run.getField_guarded d id name)
      fun _ _ => .pure trivial
  | setField id name v =>
    exact .bind (Run.setField_acting id name v) (Run.setField_guarded d id name v)
      fun _ _ => .pure trivial
  | resolveField className name =>
    exact .bind (Run.resolveField_acting className name)
      (Run.resolveField_guarded className name) fun _ _ => .pure trivial
  | resolveMethod className name descriptor =>
    refine .bind (Run.resolveMethod_acting className name descriptor)
      (Run.resolveMethod_guarded className name descriptor) fun handle _ => ?_
    cases handle with
    | some h => exact .pure trivial
    | none => exact .pure trivial
  | handleGet h id =>
    exact .bind (Run.handleGetWith_acting (hacting _) h id)
      (Run.handleGetWith_guarded (hexecute _) h id) fun _ _ => .pure trivial
  | handleSet h id v =>
    exact .bind (Run.handleSetWith_acting (hacting _) h id v)
      (Run.handleSetWith_guarded (hacting _) (hexecute _) h id v) fun _ _ => .pure trivial

namespace Machine

/-- Over any registered bytes and after any calls, no further call fails for want of a check that
was made when the code was read: no local is out of range, no method runs past its end, every
descriptor that is used resolves, no field that is bound lacks its slot; and where a field is found
by name, its slot is there, so that anything else might be done if it were not. -/
theorem checks_suffice {r : ClassRegistry} (hreach : r.Reachable) (calls : List MachineCall)
    (call : MachineCall) :
    (∀ e, (call.run.on (({ registry := r } : Machine).after calls)).1 = .error e →
      e.isUnchecked = false) ∧
    ∀ d : Detour, (call.runBy d).on (({ registry := r } : Machine).after calls) =
      call.run.on (({ registry := r } : Machine).after calls) := by
  have htyped := (heap_typed hreach calls).1
  refine ⟨fun e hfails => ?_, fun d => (call.run_guarded d _ htyped).1⟩
  have hanswers := (call.run_guarded ⟨Run.read, Run.write⟩ _ htyped).2
  rw [hfails] at hanswers
  exact hanswers

/-- Over the registry of a pass, where a generated class loads. -/
theorem checks_suffice_counter :
    ∃ r c, r.Reachable ∧ (r.load "app.Counter").1 = .ok c ∧ c.body.methods ≠ [] ∧
      ∀ (calls : List MachineCall) (call : MachineCall),
        (∀ e, (call.run.on (({ registry := r } : Machine).after calls)).1 = .error e →
          e.isUnchecked = false) ∧
        ∀ d : Detour, (call.runBy d).on (({ registry := r } : Machine).after calls) =
          call.run.on (({ registry := r } : Machine).after calls) := by
  have hchecks : Counter.Checks (.selfContained .direct) "app.Counter" none := by decide +kernel
  obtain ⟨generated, r, hgenerate, hentity, hdigests, _, _, hall⟩ := Counter.loads hchecks
  obtain ⟨bodies, body, hinstalls⟩ := Generator.generate_installs (.new .builtin) hdigests hgenerate
  obtain ⟨c, accessorClass, inherited, own, hloads⟩ :=
    hinstalls.loads (hall.mono (Generator.generate_names hgenerate)) (Counter.fieldNames _ _)
  have hreach : r.Reachable := Generator.generate_reachable (.new .builtin) hgenerate
  rw [hentity] at hloads
  have hmethods : c.body.methods ≠ [] := by
    rw [hloads.body]
    exact List.cons_ne_nil _ _
  exact ⟨r, c, hreach, ClassRegistry.load_ok_iff.mpr hloads.links, hmethods, checks_suffice hreach⟩

end Machine

end EntityForge
