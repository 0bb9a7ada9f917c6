import EntityForge.Proofs.Machine.Objects
import Mathlib.Logic.Relation

/-!
What runs do to the machine. Whatever code runs, whether it answers or fails, the machine changes by
four actions only: a class is loaded, an object of a loaded class is made, a value that fits is put
into a slot, a handle is numbered. A property that the four keep holds throughout every run.
-/

namespace EntityForge

inductive Machine.Acts : Machine → Machine → Prop where
  | load (m : Machine) (name : String) : Acts m { m with registry := (m.registry.load name).2 }
  | create (m : Machine) {name : String} {c : LoadedClass}
      (hloaded : m.registry.loaded.get? name = some c) :
      Acts m { m with heap := m.heap.push ⟨c, c.initialFields⟩ }
  | store (m : Machine) {id slot : Nat} {v : Value} {field : FieldSlot}
      (hfield : (m.classOf id).slots[slot]? = some field) (hfits : m.fits v field.type = true) :
      Acts m (m.put id slot v)
  | number (m : Machine) : Acts m { m with handleCount := m.handleCount + 1 }

/-- A machine after any number of changes. -/
abbrev Machine.Evolves : Machine → Machine → Prop := Relation.ReflTransGen Machine.Acts

namespace Run

variable {α β : Type}

/-- A run changes the machine by actions only. -/
def Acting (x : Run α) : Prop := ∀ m, Machine.Evolves m (x.on m).2

namespace Acting

theorem pure (a : α) : Acting (Pure.pure a) := fun _ => .refl

theorem throw (e : Failure) : Acting (MonadExcept.throw e : Run α) := fun _ => .refl

theorem lift (x : Except Failure α) : Acting (liftM x : Run α) := by
  intro m
  rw [on_lift]

theorem bind {x : Run α} {f : α → Run β} (hx : x.Acting) (hf : ∀ a, (f a).Acting) :
    (x >>= f).Acting := by
  intro m
  rw [on_bind]
  have hfirst := hx m
  cases hrun : x.on m with
  | mk result m' =>
    rw [hrun] at hfirst
    cases result with
    | ok a => exact hfirst.trans (hf a m')
    | error e => exact hfirst

/-- A check in front of a run. -/
theorem check {x : Except Failure α} {f : α → Run β} (hf : ∀ a, (f a).Acting) :
    ((liftM x : Run α) >>= f).Acting := bind (lift x) hf

/-- A look at the machine in front of a run. -/
theorem look {f : Machine → Run β} (hf : ∀ m, (f m).Acting) : (get >>= f).Acting := fun m => hf m m

theorem adapt {x : Run α} (g : Failure → Failure) (hx : x.Acting) :
    Acting (ExceptT.adapt g x) := hx

theorem ite {p : Prop} [Decidable p] {x y : Run α} (hx : x.Acting) (hy : y.Acting) :
    (if p then x else y).Acting := by
  split
  · exact hx
  · exact hy

end Acting

theorem classOf_acting (id : Nat) : (classOf id).Acting := .look fun _ => .pure _

theorem failOn_acting (id : Nat) (failure : String → Failure) : (failOn (α := α) id failure).Acting :=
  .bind (classOf_acting id) fun _ => .throw _

theorem load_acting (name : String) : (load name).Acting := by
  intro m
  rw [load_run]
  exact .single (.load m name)

theorem read_acting (id slot : Nat) : (read id slot).Acting := by
  refine .look fun m => ?_
  split
  · exact .pure _
  · exact failOn_acting _ _

theorem store_acting (id slot : Nat) (v : Value) : (store id slot v).Acting := by
  intro m
  rw [store, on_get_bind]
  dsimp only
  split
  · exact .refl
  · next field hfield =>
    split
    · next hfits =>
      rw [write, on_get_bind]
      dsimp only
      split
      · exact .single (.store m hfield hfits)
      · exact failOn_acting _ _ m
    · exact .refl

theorem newHandle_acting (className name : String) (target : HandleTarget) :
    (newHandle className name target).Acting := fun m => .single (.number m)

theorem fieldSlot_acting (id : Nat) (name : String) : (fieldSlot id name).Acting := by
  refine .bind (classOf_acting id) fun c => ?_
  split
  · exact .pure _
  · exact .throw _

theorem getField_acting (id : Nat) (name : String) : (getField id name).Acting :=
  .bind (fieldSlot_acting id name) fun _ => read_acting _ _

theorem setField_acting (id : Nat) (name : String) (v : Value) : (setField id name v).Acting :=
  .bind (fieldSlot_acting id name) fun _ => store_acting _ _ _

theorem resolveField_acting (className name : String) : (resolveField className name).Acting := by
  refine .bind (load_acting className) fun c => ?_
  split
  · exact .throw _
  · split
    · exact .throw _
    · exact newHandle_acting _ _ _

theorem resolveMethod_acting (className name descriptor : String) :
    (resolveMethod className name descriptor).Acting := by
  refine .bind (load_acting className) fun c => ?_
  split
  · exact .pure _
  · exact .check fun _ => .bind (newHandle_acting _ _ _) fun _ => .pure _

theorem checkReceiver_acting (h : MemberHandle) (id : Nat) : (checkReceiver h id).Acting :=
  .bind (classOf_acting id) fun _ => .ite (.pure _) (.throw _)

theorem checkInstance_acting (id : Nat) (className : String) : (checkInstance id className).Acting :=
  .bind (classOf_acting id) fun _ => .ite (.pure _) (.throw _)

theorem annotate_acting (id : Nat) (a : Annotation) : Acting (annotate id a) := by
  refine .bind (getField_acting id _) fun known => ?_
  dsimp only
  split
  · exact setField_acting _ _ _
  · exact setField_acting _ _ _
  · exact .bind (.throw _) fun _ => setField_acting _ _ _

theorem bindMethod_acting (className name descriptor : String) (required : Bool) :
    (bindMethod className name descriptor required).Acting := by
  refine .bind (.adapt _ (resolveMethod_acting className name descriptor)) fun bound => ?_
  split
  · exact .pure _
  · exact .ite (.throw _) (.pure _)

/-! Calls act if what they call does. -/

section Calls

variable {callee : Callee} (hcallee : ∀ self method args, (callee self method args).Acting)
include hcallee

theorem callWith_acting (receiver : Nat) (name descriptor : String) (args : List Value) :
    (callWith callee receiver name descriptor args).Acting := by
  refine .bind (classOf_acting receiver) fun c => ?_
  split
  · exact hcallee _ _ _
  · exact .throw _

/-- The object that is made is one of the class that was loaded just before. -/
theorem constructWith_acting (className descriptor : String) (args : List Value) :
    (constructWith callee className descriptor args).Acting := by
  intro m
  rw [constructWith, on_bind]
  have hloads := load_acting className m
  cases hload : (load className).on m with
  | mk result m₁ =>
    rw [hload] at hloads
    cases result with
    | error e => exact hloads
    | ok c =>
      dsimp only
      rw [on_bind_ok (allocate_on c m₁)]
      refine hloads.trans (.head (.create m₁ (load_keeps hload)) ?_)
      split
      · exact Acting.bind (hcallee _ _ _) (fun _ => .pure _) _
      · exact Acting.ite (.pure _) (.throw _) _

theorem handleGetWith_acting (h : MemberHandle) (id : Nat) : (handleGetWith callee h id).Acting := by
  refine .bind (checkReceiver_acting h id) fun _ => ?_
  split
  · exact read_acting _ _
  · exact callWith_acting hcallee _ _ _ _
  · exact .throw _

theorem handleSetWith_acting (h : MemberHandle) (id : Nat) (v : Value) :
    (handleSetWith callee h id v).Acting := by
  refine .bind (checkReceiver_acting h id) fun _ => ?_
  split
  · exact store_acting _ _ _
  · exact .bind (callWith_acting hcallee _ _ _ _) fun _ => .pure _
  · exact .throw _

/-- Every instruction acts. -/
theorem step_acting (type : MethodType) (f : Frame) (i : Instruction) :
    (step callee type f i).Acting := by
  cases i with
  | nop | pushNull | pushBool _ | loadConstant _ | newEnum _ _ | returnVoid => exact .pure _
  | load _ | dup | pop | newList _ | intrinsic _ => exact .check fun _ => .pure _
  | box _ | unbox _ | newType _ _ _ _ _ => exact .check fun _ => .check fun _ => .pure _
  | getField className name =>
    exact .check fun _ => .bind (checkInstance_acting _ _) fun _ =>
      .bind (getField_acting _ _) fun _ => .pure _
  | putField className name =>
    exact .check fun _ => .check fun _ => .bind (checkInstance_acting _ _) fun _ =>
      .bind (setField_acting _ _ _) fun _ => .pure _
  | invoke className name descriptor =>
    exact .check fun _ => .check fun _ => .check fun _ =>
      .bind (checkInstance_acting _ _) fun _ =>
      .bind (callWith_acting hcallee _ _ _ _) fun _ => .pure _
  | new className descriptor =>
    exact .check fun _ => .check fun _ =>
      .bind (constructWith_acting hcallee _ _ _) fun _ => .pure _
  | checkCast target => exact .check fun _ => .look fun _ => .ite (.pure _) (.throw _)
  | annotationBegin typeName => exact .look fun _ => .check fun _ => .pure _
  | annotationSet element => exact .check fun _ => .check fun _ => .check fun _ => .pure _
  | annotationEnd =>
    exact .check fun _ => .check fun _ => .bind (annotate_acting _ _) fun _ => .pure _
  | resolveField className name =>
    exact .bind (.adapt _ (resolveField_acting className name)) fun _ => .pure _
  | resolveMethod className name descriptor required =>
    exact .bind (bindMethod_acting _ _ _ _) fun _ => .pure _
  | handleGet =>
    refine .check fun ⟨id, f⟩ => .check fun ⟨handle, f⟩ => ?_
    cases handle with
    | none => exact .throw _
    | some h => exact .bind (handleGetWith_acting hcallee h id) fun _ => .pure _
  | handleSet entity property =>
    refine .check fun ⟨v, f⟩ => .check fun ⟨id, f⟩ => .check fun ⟨handle, f⟩ => ?_
    cases handle with
    | none => exact .throw _
    | some h => exact .bind (handleSetWith_acting hcallee h id v) fun _ => .pure _
  | throw message => exact failOn_acting _ _
  | returnValue => exact .check fun _ => .look fun _ => .ite (.pure _) (.throw _)

/-- Code acts as its instructions do, one after the other. -/
theorem runCode_acting (type : MethodType) (f : Frame) (code : List Instruction) :
    (runCode callee type f code).Acting := by
  induction code generalizing f with
  | nil => exact failOn_acting _ _
  | cons i rest ih =>
    refine .bind (step_acting hcallee type f i) fun progress => ?_
    cases progress with
    | running f => exact ih f
    | finished v => exact .pure v

end Calls

theorem checkArguments_acting (method : MethodDef) (type : MethodType) (args : List Value) :
    (checkArguments method type args).Acting := by
  refine .look fun m => .ite (.throw _) ?_
  split
  · exact .throw _
  · exact .pure _

/-- Methods act, however deeply their calls nest. -/
theorem execute_acting (levels self : Nat) (method : MethodDef) (args : List Value) :
    (execute levels self method args).Acting := by
  induction levels generalizing self method args with
  | zero => exact failOn_acting _ _
  | succ levels ih =>
    exact .check fun type => .bind (checkArguments_acting method type args) fun _ =>
      runCode_acting ih type _ _

end Run

end EntityForge
