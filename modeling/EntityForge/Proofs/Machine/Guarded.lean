import EntityForge.Proofs.Machine.HeapTyping

/-!
What checked code can fail with. A class is checked when it is read and when it is linked, and the
machine still guards each step that relies on a check. A run is guarded next to another one if, on a
typed heap, both do the same and no failure says that a check was missed; this is put together
along the steps of a run, as its actions are.
-/

namespace EntityForge

/-- Whether a failure tells of code that was not checked. -/
def Failure.isUnchecked : Failure → Bool
  | localOutOfRange _ _ | ranPastEnd _ _ | badMethodDescriptor _ _ | danglingSlot _ _ => true
  | missingLookup _ _ cause => cause.isUnchecked
  | _ => false

/-- An answer of which a condition holds, or a failure of checked code. -/
def Answers {α : Type} (P : α → Prop) : Except Failure α → Prop
  | .ok a => P a
  | .error e => e.isUnchecked = false

namespace Answers

variable {α β : Type} {P : α → Prop} {Q : β → Prop}

theorem imp {P' : α → Prop} {x : Except Failure α} (hx : Answers P x) (h : ∀ a, P a → P' a) :
    Answers P' x := by
  cases x with
  | ok a => exact h a hx
  | error e => exact hx

theorem bind {x : Except Failure α} {f : α → Except Failure β} (hx : Answers P x)
    (hf : ∀ a, P a → Answers Q (f a)) : Answers Q (x >>= f) := by
  cases x with
  | ok a => exact hf a hx
  | error e => exact hx

theorem mapM {f : α → Except Failure β} (hf : ∀ a, Answers (fun _ => True) (f a))
    (items : List α) : Answers (fun _ => True) (items.mapM f) := by
  induction items with
  | nil => exact trivial
  | cons a items ih =>
    rw [List.mapM_cons]
    exact (hf a).bind fun _ _ => ih.bind fun _ _ => trivial

end Answers

/-! The checks of a frame keep its locals. -/

namespace Frame

/-- Something taken off a frame that still has its locals. -/
def Keeps {α : Type} (f : Frame) (taken : α × Frame) : Prop := taken.2.locals = f.locals

variable (f : Frame)

theorem pop_answers : Answers f.Keeps f.pop := by
  unfold pop
  split <;> rfl

theorem popAs_answers {α : Type} (expected : String) (as? : Value → Option α) :
    Answers f.Keeps (f.popAs expected as?) := by
  refine f.pop_answers.bind fun (v, f') hkeeps => ?_
  dsimp only
  split
  · exact hkeeps
  · rfl

theorem popObject_answers : Answers f.Keeps f.popObject := f.popAs_answers _ _

theorem popHandle_answers : Answers f.Keeps f.popHandle := by
  refine f.pop_answers.bind fun (v, f') hkeeps => ?_
  dsimp only
  split
  · exact hkeeps
  · exact hkeeps
  · rfl

theorem popMany_answers (n : Nat) : Answers f.Keeps (f.popMany n) := by
  unfold popMany
  split <;> rfl

theorem popDraft_answers : Answers f.Keeps f.popDraft := by
  unfold popDraft
  split <;> rfl

theorem peek_answers : Answers (fun _ => True) f.peek := by
  unfold peek
  split
  · exact trivial
  · rfl

theorem intrinsic_answers (which : Intrinsic) : Answers f.Keeps (Run.intrinsic f which) := by
  cases which with
  | discriminatorKey => exact (f.popAs_answers _ _).bind fun _ hpop => hpop
  | collectionName | discriminator =>
    refine (f.popAs_answers _ _).bind fun (_, f') hpop => ?_
    exact (f'.popAs_answers _ _).bind fun _ hpop' => Eq.trans hpop' hpop

theorem localAt_answers {i : Nat} (h : i < f.locals.length) :
    Answers (fun _ => True) (f.localAt i) := by
  rw [localAt, List.getElem?_eq_getElem h]
  exact trivial

end Frame

theorem Value.boxed_answers (v : Value) (p : Primitive) : Answers (fun _ => True) (v.boxed p) := by
  unfold boxed
  split
  · exact trivial
  · rfl

theorem Value.unboxed_answers (v : Value) (p : Primitive) :
    Answers (fun _ => True) (v.unboxed p) := by
  unfold unboxed
  split
  · exact trivial
  · rfl

theorem Value.toType_answers (v : Value) : Answers (fun _ => True) v.toType := by
  unfold toType
  split
  · exact trivial
  · rfl

theorem AnnotationRegistry.draft_answers (r : AnnotationRegistry) (typeName : String) :
    Answers (fun _ => True) (r.draft typeName) := by
  unfold draft
  split
  · exact trivial
  · rfl

theorem AnnotationDraft.set_answers (d : AnnotationDraft) (element : String) (v : Value) :
    Answers (fun _ => True) (d.set element v) := by
  unfold set setValue
  split
  · rfl
  · split
    · rfl
    · split
      · rfl
      · exact trivial

/-! Loading fails with no failure of the machine. -/

namespace LoadedClass

theorem slotOf_answers (className : String) (f : FieldDef) :
    Answers (fun _ => True) (slotOf className f) := by
  have hinitial : ∀ (c : Constant) (t : TypeTree),
      Answers (fun _ => True) (Value.ofInitializer c t) := by
    intro c t
    unfold Value.ofInitializer
    dsimp only
    split
    · exact trivial
    · rfl
  unfold slotOf
  cases Signature.parseType f.descriptor with
  | error e => rfl
  | ok type =>
    dsimp only
    cases f.initial with
    | none => exact trivial
    | some c => exact (hinitial c type).bind fun _ _ => trivial

theorem link_answers (b : ClassBody) (parent : Option LoadedClass) :
    Answers (fun _ => True) (link b parent) :=
  (Answers.mapM (slotOf_answers b.name) _).bind fun _ _ => trivial

end LoadedClass

namespace ClassRegistry

variable {records : Keyed ClassRecord}

theorem definition_answers (name : String) : Answers (fun _ => True) (definition records name) := by
  have hbody : Answers (fun _ => True) (body records name) := by
    unfold body
    split
    · rfl
    · next record _ =>
      cases ClassBody.decode record.bytes with
      | error e => rfl
      | ok b => exact trivial
  refine hbody.bind fun b _ => ?_
  split
  · exact trivial
  · rfl

theorem loadChain_answers (visiting : List String) (name : String) (cache : Keyed LoadedClass) :
    Answers (fun _ => True) (loadChain records visiting name cache).1 := by
  have hlink := LoadedClass.link_answers
  fun_induction loadChain records visiting name cache with
  | case1 => exact trivial
  | case2 => rfl
  | case3 visiting name _ _ e hbody =>
    have hanswers : Answers _ (definition records name) := definition_answers name
    rw [hbody] at hanswers
    exact hanswers
  | case4 visiting name _ _ b _ finish =>
    dsimp only [finish]
    split
    · next hfails => exact hfails ▸ hlink b none
    · exact trivial
  | case5 visiting name _ _ b _ superName _ e cache' hrun ih =>
    rw [hrun] at ih
    exact ih
  | case6 visiting name _ _ b _ finish superName _ parent =>
    dsimp only [finish]
    split
    · next hfails => exact hfails ▸ hlink b (some parent)
    · exact trivial

end ClassRegistry

/-! Runs. -/

namespace Run

variable {α β : Type} {P : α → Prop} {Q : β → Prop}

/-- On a typed heap both runs do the same, what they answer meets a condition, and they fail as
checked code can. -/
def Guarded (x y : Run α) (P : α → Prop) : Prop :=
  ∀ m : Machine, m.HeapTyped → y.on m = x.on m ∧ Answers P (x.on m).1

namespace Guarded

theorem pure {a : α} (h : P a) : Guarded (Pure.pure a) (Pure.pure a) P := fun _ _ => ⟨rfl, h⟩

theorem throw {e : Failure} (h : e.isUnchecked = false) :
    Guarded (MonadExcept.throw e : Run α) (MonadExcept.throw e) P := fun _ _ => ⟨rfl, h⟩

theorem bind {x y : Run α} {f g : α → Run β} (hacting : x.Acting) (hx : Guarded x y P)
    (hf : ∀ a, P a → Guarded (f a) (g a) Q) : Guarded (x >>= f) (y >>= g) Q := by
  intro m hm
  obtain ⟨hsame, hanswers⟩ := hx m hm
  rw [on_bind, on_bind, hsame]
  have htyped := hm.evolves (hacting m)
  cases hrun : x.on m with
  | mk result m' =>
    rw [hrun] at hanswers htyped
    cases result with
    | ok a => exact hf a hanswers m' htyped
    | error e => exact ⟨rfl, hanswers⟩

/-- A check in front of both runs. -/
theorem check {x : Except Failure α} {f g : α → Run β} (hx : Answers P x)
    (hf : ∀ a, P a → Guarded (f a) (g a) Q) :
    Guarded ((liftM x : Run α) >>= f) ((liftM x : Run α) >>= g) Q := by
  refine bind (.lift x) ?_ hf
  intro m _
  rw [on_lift]
  exact ⟨rfl, hx⟩

/-- A look at the machine in front of both runs. -/
theorem look {f g : Machine → Run β} (hf : ∀ m, Guarded (f m) (g m) Q) :
    Guarded (get >>= f) (get >>= g) Q := fun m hm => hf m m hm

theorem ite {p : Prop} [Decidable p] {x x' y y' : Run α} (hx : Guarded x x' P)
    (hy : Guarded y y' P) : Guarded (if p then x else y) (if p then x' else y') P := by
  split
  · exact hx
  · exact hy

theorem imp {P' : α → Prop} {x y : Run α} (hx : Guarded x y P) (h : ∀ a, P a → P' a) :
    Guarded x y P' := fun m hm => ⟨(hx m hm).1, (hx m hm).2.imp h⟩

/-- A failure that only names what was looked for is no worse than its cause. -/
theorem missing {x : Run α} (className member : String) (hx : Guarded x x P) :
    Guarded (ExceptT.adapt (.missingLookup className member ·) x)
      (ExceptT.adapt (.missingLookup className member ·) x) P := by
  intro m hm
  have hopen : on (ExceptT.adapt (.missingLookup className member ·) x) m =
      (Except.mapError (.missingLookup className member ·) (x.on m).1, (x.on m).2) := rfl
  rw [hopen]
  have hanswers := (hx m hm).2
  cases hresult : (x.on m).1 with
  | ok a | error e =>
    rw [hresult] at hanswers
    exact ⟨rfl, hanswers⟩

end Guarded

end Run

/-- The methods that a class declares or inherits are well-formed. -/
structure LoadedClass.Runnable (c : LoadedClass) : Prop where
  found : ∀ {name descriptor method}, c.findMethod? name descriptor = some method →
    method.WellFormed ∧ method.descriptor = descriptor
  declared : ∀ {name descriptor method}, c.declaredMethod? name descriptor = some method →
    method.WellFormed

theorem LoadedClass.Linked.runnable {c : LoadedClass} (h : c.Linked) : c.Runnable where
  found hfound := by
    obtain ⟨hmethod, _, hdescriptor⟩ := h.method hfound
    exact ⟨hmethod, hdescriptor⟩
  declared hdeclared := (h.method (LoadedClass.findMethod?_own hdeclared)).1

/-- An object has every slot that its class finds by a name. -/
theorem Machine.HeapTyped.slot_exists {m : Machine} (h : m.HeapTyped) {id slot : Nat}
    {name : String} (hslot : (m.classOf id).slot? name = some slot) :
    slot < (m.classOf id).slots.length ∧ slot < (m.object id).fields.length := by
  obtain ⟨field, hfield, _⟩ := LoadedClass.slot?_some hslot
  have hbound := (List.getElem?_eq_some_iff.mp hfield).1
  by_cases hid : id < m.heap.size
  · exact ⟨hbound, (h.fields id hid).length_eq ▸ hbound⟩
  · rw [classOf_none m id (Nat.le_of_not_lt hid)] at hbound
    exact absurd hbound (Nat.not_lt_zero slot)

namespace Run

theorem failOn_guarded {α : Type} {P : α → Prop} (id : Nat) {failure : String → Failure}
    (h : ∀ name, (failure name).isUnchecked = false) :
    Guarded (failOn id failure) (failOn id failure) P :=
  .look fun _ => .throw (h _)

theorem classOf_guarded (id : Nat) : Guarded (classOf id) (classOf id) LoadedClass.Runnable := by
  intro m hm
  refine ⟨rfl, ?_⟩
  by_cases hid : id < m.heap.size
  · exact (hm.linked hid).runnable
  · show (m.classOf id).Runnable
    rw [m.classOf_none id (Nat.le_of_not_lt hid)]
    exact ⟨nofun, nofun⟩

theorem load_guarded (name : String) : Guarded (load name) (load name) LoadedClass.Runnable := by
  intro m hm
  refine ⟨rfl, ?_⟩
  have hanswers : Answers (fun _ => True) ((load name).on m).1 := by
    rw [load_run]
    exact ClassRegistry.loadChain_answers [] name m.registry.loaded
  have htyped := hm.evolves (load_acting name m)
  cases hload : (load name).on m with
  | mk result m' =>
    rw [hload] at hanswers htyped
    cases result with
    | error e => exact hanswers
    | ok c => exact (htyped.loaded _ _ (load_keeps hload)).1.runnable

theorem methodType_answers {descriptor : String} (h : IsMethodDescriptor descriptor) :
    Answers (fun type => MethodType.parse descriptor = .ok type) (methodType descriptor) := by
  obtain ⟨type, htype⟩ := h
  rw [methodType_ok htype]
  exact htype

theorem read_guarded (id slot : Nat) : Guarded (read id slot) (read id slot) fun _ => True := by
  refine .look fun m => ?_
  split
  · exact .pure trivial
  · exact failOn_guarded id fun _ => rfl

theorem store_guarded (id slot : Nat) (v : Value) :
    Guarded (store id slot v) (store id slot v) fun _ => True := by
  refine .look fun m => ?_
  dsimp only
  split
  · exact .throw rfl
  · refine .ite (.look fun m => .ite ?_ (failOn_guarded id fun _ => rfl)) (.throw rfl)
    exact fun _ _ => ⟨rfl, trivial⟩

theorem resolveField_guarded (className name : String) :
    Guarded (resolveField className name) (resolveField className name) fun _ => True := by
  refine .bind (load_acting className) (load_guarded className) fun c _ => ?_
  split
  · exact .throw rfl
  · next slot hslot =>
    obtain ⟨field, hfield, _⟩ := LoadedClass.slot?_some hslot
    rw [hfield]
    exact fun _ _ => ⟨rfl, trivial⟩

theorem resolveMethod_guarded (className name descriptor : String) :
    Guarded (resolveMethod className name descriptor) (resolveMethod className name descriptor)
      fun _ => True := by
  refine .bind (load_acting className) (load_guarded className) fun c hmethods => ?_
  split
  · exact .pure trivial
  · next method hfound =>
    obtain ⟨hmethod, rfl⟩ := hmethods.found hfound
    obtain ⟨type, hparse, _⟩ := hmethod.fits
    refine .check (methodType_answers ⟨type, hparse⟩) fun _ _ => ?_
    exact fun _ _ => ⟨rfl, trivial⟩

theorem bindMethod_guarded (className name descriptor : String) (required : Bool) :
    Guarded (bindMethod className name descriptor required)
      (bindMethod className name descriptor required) fun _ => True := by
  refine .bind (.adapt _ (resolveMethod_acting className name descriptor))
    (.missing _ _ (resolveMethod_guarded className name descriptor)) fun bound _ => ?_
  split
  · exact .pure trivial
  · exact .ite (.throw rfl) (.pure trivial)

theorem checkReceiver_guarded (h : MemberHandle) (id : Nat) :
    Guarded (checkReceiver h id) (checkReceiver h id) fun _ => True :=
  .look fun _ => .ite (.pure trivial) (.throw rfl)

theorem checkInstance_guarded (id : Nat) (className : String) :
    Guarded (checkInstance id className) (checkInstance id className) fun _ => True :=
  .look fun _ => .ite (.pure trivial) (.throw rfl)

theorem checkArguments_guarded (method : MethodDef) (type : MethodType) (args : List Value) :
    Guarded (checkArguments method type args) (checkArguments method type args)
      fun _ => True := by
  refine .look fun m => .ite (.throw rfl) ?_
  split
  · exact .throw rfl
  · exact .pure trivial

/-! Calls are guarded if what they call is. -/

section Calls

variable {callee callee' : Callee}
  (hacting : ∀ self method args, (callee self method args).Acting)
  (hcallee : ∀ self method args, method.WellFormed →
    Guarded (callee self method args) (callee' self method args) fun _ => True)
include hcallee

theorem callWith_guarded (receiver : Nat) (name descriptor : String) (args : List Value) :
    Guarded (callWith callee receiver name descriptor args)
      (callWith callee' receiver name descriptor args) fun _ => True := by
  refine .bind (classOf_acting receiver) (classOf_guarded receiver) fun c hmethods => ?_
  split
  · next method hfound => exact hcallee _ _ _ (hmethods.found hfound).1
  · exact .throw rfl

theorem handleGetWith_guarded (h : MemberHandle) (id : Nat) :
    Guarded (handleGetWith callee h id) (handleGetWith callee' h id) fun _ => True := by
  refine .bind (checkReceiver_acting h id) (checkReceiver_guarded h id) fun _ _ => ?_
  split
  · exact read_guarded _ _
  · exact callWith_guarded hcallee _ _ _ _
  · exact .throw rfl

include hacting

theorem constructWith_guarded (className descriptor : String) (args : List Value) :
    Guarded (constructWith callee className descriptor args)
      (constructWith callee' className descriptor args) fun _ => True := by
  intro m hm
  rw [constructWith, constructWith, on_bind, on_bind]
  obtain ⟨_, hanswers⟩ := load_guarded className m hm
  have hevolves := load_acting className m
  cases hload : (load className).on m with
  | mk result m₁ =>
    rw [hload] at hanswers hevolves
    cases result with
    | error e => exact ⟨rfl, hanswers⟩
    | ok c =>
      -- The new object is one of a loaded class, so the heap is still typed.
      have htyped := (hm.evolves hevolves).create (load_keeps hload)
      dsimp only
      rw [on_bind_ok (allocate_on c m₁), on_bind_ok (allocate_on c m₁)]
      refine Guarded.imp (P := fun _ => True) ?_ (fun _ h => h) _ htyped
      split
      · next constructor hdeclared =>
        exact .bind (hacting _ _ _) (hcallee _ _ _ (hanswers.declared hdeclared))
          fun _ _ => .pure trivial
      · exact .ite (.pure trivial) (.throw rfl)

theorem handleSetWith_guarded (h : MemberHandle) (id : Nat) (v : Value) :
    Guarded (handleSetWith callee h id v) (handleSetWith callee' h id v) fun _ => True := by
  refine .bind (checkReceiver_acting h id) (checkReceiver_guarded h id) fun _ _ => ?_
  split
  · exact store_guarded _ _ _
  · exact .bind (callWith_acting hacting _ _ _ _) (callWith_guarded hcallee _ _ _ _)
      fun _ _ => .pure trivial
  · exact .throw rfl

end Calls

end Run

end EntityForge
