import EntityForge.Proofs.Machine.Detours
import EntityForge.Proofs.Registry.Hidden

/-!
Two machines side by side. They match if their registries do and their objects are of matching
classes and hold the same values. A run is blind to hidden methods if it answers or fails in the
same way on machines that match, and leaves them matching. Whatever the machine does with objects,
fields and handles is blind, as long as no hidden method is named.
-/

namespace EntityForge

variable {hidden : List MethodRef}

/-! Matching machines. -/

/-- Two objects are of matching classes and hold the same values, none a hidden method. -/
structure Instance.Matches (hidden : List MethodRef) (o o' : Instance) : Prop where
  type : o.type.Matches hidden o'.type
  fields : o.fields = o'.fields
  avoids : ∀ v ∈ o.fields, v.Avoids hidden

namespace Machine

variable {m m' : Machine}

/-- Two machines differ in hidden methods only. -/
structure Matches (hidden : List MethodRef) (m m' : Machine) : Prop where
  registry : m.registry.Matches hidden m'.registry
  size : m.heap.size = m'.heap.size
  objects : ∀ id, (m.object id).Matches hidden (m'.object id)
  handleCount : m.handleCount = m'.handleCount

namespace Matches

theorem start {r r' : ClassRegistry} (h : r.Matches hidden r') :
    Matches hidden { registry := r } { registry := r' } where
  registry := h
  size := rfl
  objects _ := ⟨.default, rfl, nofun⟩
  handleCount := rfl

variable (h : m.Matches hidden m')
include h

theorem classOf (id : Nat) : (m.classOf id).Matches hidden (m'.classOf id) := (h.objects id).type

theorem isInstance : m.isInstance = m'.isInstance := by
  funext id target
  exact (h.classOf id).isSubclassOf target

theorem conforms : m.conforms = m'.conforms := by
  funext v target
  rw [Machine.conforms, h.isInstance, Machine.conforms]

theorem fits : m.fits = m'.fits := by
  funext v t
  rw [Machine.fits, h.isInstance, Machine.fits]

theorem put (id slot : Nat) {v : Value} (hv : v.Avoids hidden) :
    (m.put id slot v).Matches hidden (m'.put id slot v) := by
  refine ⟨h.registry, by simpa using h.size, fun other => ?_, h.handleCount⟩
  by_cases hsame : other = id
  · subst hsame
    by_cases hbound : other < m.heap.size
    · obtain ⟨htype, hfields, havoids⟩ := h.objects other
      rw [object_put_self m other slot v hbound, object_put_self m' other slot v (h.size ▸ hbound)]
      refine ⟨htype, congrArg (·.set slot v) hfields, fun w hw => ?_⟩
      rcases List.mem_or_eq_of_mem_set hw with hold | rfl
      · exact havoids w hold
      · exact hv
    · rw [put_none (Nat.le_of_not_lt hbound), put_none (Nat.le_of_not_lt (h.size ▸ hbound))]
      exact h.objects other
  · rw [object_put_ne m id slot v hsame, object_put_ne m' id slot v hsame]
    exact h.objects other

theorem create {c c' : LoadedClass} (hc : c.Matches hidden c') :
    Matches hidden { m with heap := m.heap.push ⟨c, c.initialFields⟩ }
      { m' with heap := m'.heap.push ⟨c', c'.initialFields⟩ } := by
  refine ⟨h.registry, ?_, fun id => ?_, h.handleCount⟩
  · simpa using h.size
  · have hobject := h.objects id
    unfold object at hobject ⊢
    rw [Array.getElem?_push, Array.getElem?_push, ← h.size]
    split
    · exact ⟨hc, hc.initialFields, fun _ => hc.initialFields_avoid⟩
    · exact hobject

end Matches

end Machine

/-! Runs that are blind to hidden methods. -/

namespace Run

variable {α β γ δ : Type}

/-- Two runs do the same on matching machines, and what they answer is related. -/
def Mirrors (hidden : List MethodRef) (R : α → β → Prop) (x : Run α) (y : Run β) : Prop :=
  ∀ m m', m.Matches hidden m' →
    Checked.Alike R (x.on m).1 (y.on m').1 ∧ (x.on m).2.Matches hidden (y.on m').2

/-- A run does the same on matching machines, and what it answers meets a condition. -/
abbrev Blind (hidden : List MethodRef) (P : α → Prop) (x : Run α) : Prop :=
  Mirrors hidden (fun a b => a = b ∧ P a) x x

namespace Mirrors

variable {R : α → β → Prop} {S : γ → δ → Prop}

theorem pure {a : α} {b : β} (h : R a b) :
    Mirrors hidden R (Pure.pure a : Run α) (Pure.pure b : Run β) := fun _ _ hm => ⟨.ok h, hm⟩

theorem throw (e : Failure) :
    Mirrors hidden R (MonadExcept.throw e : Run α) (MonadExcept.throw e : Run β) :=
  fun _ _ hm => ⟨.error e, hm⟩

theorem bind {x : Run α} {y : Run β} {f : α → Run γ} {g : β → Run δ} (hx : Mirrors hidden R x y)
    (hf : ∀ {a b}, R a b → Mirrors hidden S (f a) (g b)) :
    Mirrors hidden S (x >>= f) (y >>= g) := by
  intro m m' hm
  obtain ⟨hanswer, hafter⟩ := hx m m' hm
  rw [on_bind, on_bind]
  cases hleft : x.on m with
  | mk result m₁ =>
    cases hright : y.on m' with
    | mk result' m₁' =>
      rw [hleft, hright] at hanswer hafter
      cases hanswer with
      | ok hab => exact hf hab m₁ m₁' hafter
      | error e => exact ⟨.error e, hafter⟩

theorem check {x : Except Failure α} {f : α → Run γ} {g : α → Run δ}
    (hf : ∀ {a}, x = .ok a → Mirrors hidden S (f a) (g a)) :
    Mirrors hidden S ((liftM x : Run α) >>= f) ((liftM x : Run α) >>= g) := by
  intro m m' hm
  cases x with
  | error e => exact ⟨.error e, hm⟩
  | ok a => exact hf rfl m m' hm

theorem look {f : Machine → Run γ} {g : Machine → Run δ}
    (hf : ∀ {m m'}, m.Matches hidden m' → Mirrors hidden S (f m) (g m')) :
    Mirrors hidden S (get >>= f) (get >>= g) := fun m m' hm => hf hm m m' hm

theorem adapt {x : Run α} {y : Run β} (e : Failure → Failure) (hx : Mirrors hidden R x y) :
    Mirrors hidden R (ExceptT.adapt e x) (ExceptT.adapt e y) := by
  intro m m' hm
  obtain ⟨hanswer, hafter⟩ := hx m m' hm
  exact ⟨hanswer.mapError e, hafter⟩

theorem ite {p : Prop} [Decidable p] {x x' : Run α} {y y' : Run β} (hx : Mirrors hidden R x y)
    (hx' : Mirrors hidden R x' y') :
    Mirrors hidden R (if p then x else x') (if p then y else y') := by
  split
  · exact hx
  · exact hx'

end Mirrors

/-! What the machine does. -/

theorem classOf_mirrors (id : Nat) :
    Mirrors hidden (LoadedClass.Matches hidden) (classOf id) (classOf id) :=
  fun _ _ h => ⟨.ok (h.classOf id), h⟩

theorem failOn_blind {P : α → Prop} (id : Nat) (failure : String → Failure) :
    Blind hidden P (failOn id failure) := by
  refine .bind (classOf_mirrors id) fun hc => ?_
  rw [hc.name]
  exact .throw _

theorem load_mirrors (name : String) :
    Mirrors hidden (LoadedClass.Matches hidden) (load name) (load name) := by
  intro m m' h
  obtain ⟨hanswer, hregistry⟩ := h.registry.load name
  rw [load_run, load_run]
  exact ⟨hanswer, hregistry, h.size, h.objects, h.handleCount⟩

theorem allocate_mirrors {c c' : LoadedClass} (hc : c.Matches hidden c') :
    Mirrors hidden (fun id id' => id = id' ∧ True) (allocate c) (allocate c') :=
  fun _ _ h => ⟨.ok ⟨h.size, trivial⟩, h.create hc⟩

theorem read_blind (id slot : Nat) : Blind hidden (Value.Avoids hidden) (read id slot) := by
  refine .look fun {m m'} h => ?_
  have hobject := h.objects id
  have hfields : (m.heap[id]?.getD default).fields = (m'.heap[id]?.getD default).fields :=
    hobject.fields
  rw [← hfields]
  split
  · next v hv => exact .pure ⟨rfl, hobject.avoids v (List.mem_of_getElem? hv)⟩
  · exact failOn_blind id _

private theorem write_run (id slot : Nat) (v : Value) (m : Machine) :
    (write id slot v).on m =
      if slot < (m.object id).fields.length then (.ok (), m.put id slot v)
      else (failOn id (.slotOutOfRange slot)).on m := by
  by_cases h : slot < (m.object id).fields.length
  · have hwritable : slot < (m.heap[id]?.getD default).fields.length := h
    simp only [write, on_get_bind, hwritable, h, if_true]
    rfl
  · have hoverflows : ¬ slot < (m.heap[id]?.getD default).fields.length := h
    simp only [write, on_get_bind, hoverflows, h, if_false]

theorem write_blind (id slot : Nat) {v : Value} (hv : v.Avoids hidden) :
    Blind hidden (fun _ => True) (write id slot v) := by
  intro m m' hm
  rw [write_run, write_run, ← (hm.objects id).fields]
  split
  · exact ⟨.ok ⟨rfl, trivial⟩, hm.put id slot hv⟩
  · exact failOn_blind id _ m m' hm

theorem store_blind (id slot : Nat) {v : Value} (hv : v.Avoids hidden) :
    Blind hidden (fun _ => True) (store id slot v) := by
  refine .look fun h => ?_
  dsimp only
  rw [(h.classOf id).slots, (h.classOf id).name, h.fits]
  split
  · exact .throw _
  · exact .ite (write_blind id slot hv) (.throw _)

theorem fieldSlot_blind (id : Nat) (name : String) :
    Blind hidden (fun _ => True) (fieldSlot id name) := by
  refine .bind (classOf_mirrors id) fun hc => ?_
  rw [hc.slot?, hc.name]
  split
  · exact .pure ⟨rfl, trivial⟩
  · exact .throw _

theorem getField_blind (id : Nat) (name : String) :
    Blind hidden (Value.Avoids hidden) (getField id name) :=
  .bind (fieldSlot_blind id name) fun ⟨heq, _⟩ => heq ▸ read_blind id _

theorem setField_blind (id : Nat) (name : String) {v : Value} (hv : v.Avoids hidden) :
    Blind hidden (fun _ => True) (setField id name v) :=
  .bind (fieldSlot_blind id name) fun ⟨heq, _⟩ => heq ▸ store_blind id _ hv

theorem annotate_blind (id : Nat) (a : Annotation) :
    Blind hidden (fun _ => True) (annotate id a) := by
  refine .bind (getField_blind id _) fun {known _} h => ?_
  obtain ⟨rfl, _⟩ := h
  cases known with
  | list items => exact setField_blind _ _ trivial
  | null => exact setField_blind _ _ trivial
  | _ => exact .throw _

theorem newHandle_blind (className name : String) {target : HandleTarget}
    (h : ∀ id, MemberHandle.Avoids hidden ⟨id, className, name, target⟩) :
    Blind hidden (MemberHandle.Avoids hidden) (newHandle className name target) := by
  intro m m' hm
  have hcount := hm.handleCount
  have hafter : Machine.Matches hidden { m with handleCount := m.handleCount + 1 }
      { m' with handleCount := m'.handleCount + 1 } :=
    ⟨hm.registry, hm.size, hm.objects, congrArg (· + 1) hcount⟩
  refine ⟨.ok ⟨?_, h _⟩, hafter⟩
  rw [hcount]

theorem resolveField_blind (className name : String) :
    Blind hidden (MemberHandle.Avoids hidden) (resolveField className name) := by
  refine .bind (load_mirrors className) fun hc => ?_
  rw [hc.slot?, hc.slots, hc.name]
  split
  · exact .throw _
  · split
    · exact .throw _
    · exact newHandle_blind _ _ fun _ => trivial

variable {name descriptor : String}

theorem resolveMethod_blind (className : String)
    (hopen : (⟨name, descriptor⟩ : MethodRef) ∉ hidden) :
    Blind hidden (fun bound => ∀ h, bound = some h → h.Avoids hidden)
      (resolveMethod className name descriptor) := by
  refine .bind (load_mirrors className) fun hc => ?_
  rw [hc.findMethod? hopen, hc.name]
  split
  · exact .pure ⟨rfl, nofun⟩
  · refine .check fun {type} _ => .bind (newHandle_blind _ _ fun _ => hopen) fun {h _} hh => ?_
    obtain ⟨rfl, havoids⟩ := hh
    refine .pure ⟨rfl, ?_⟩
    rintro _ ⟨⟩
    exact havoids

theorem bindMethod_blind (className : String) (required : Bool)
    (hopen : (⟨name, descriptor⟩ : MethodRef) ∉ hidden) :
    Blind hidden (Value.Avoids hidden) (bindMethod className name descriptor required) := by
  refine .bind (.adapt _ (resolveMethod_blind className hopen)) fun {bound _} h => ?_
  obtain ⟨rfl, havoids⟩ := h
  cases bound with
  | some h => exact .pure ⟨rfl, havoids h rfl⟩
  | none => exact .ite (.throw _) (.pure ⟨rfl, trivial⟩)

theorem checkReceiver_blind (h : MemberHandle) (id : Nat) :
    Blind hidden (fun _ => True) (checkReceiver h id) := by
  refine .bind (classOf_mirrors id) fun hc => ?_
  rw [hc.isSubclassOf, hc.name]
  exact .ite (.pure ⟨rfl, trivial⟩) (.throw _)

theorem checkInstance_blind (id : Nat) (className : String) :
    Blind hidden (fun _ => True) (checkInstance id className) := by
  refine .bind (classOf_mirrors id) fun hc => ?_
  rw [hc.isSubclassOf, hc.name]
  exact .ite (.pure ⟨rfl, trivial⟩) (.throw _)

theorem checkArguments_blind (method : MethodDef) (type : MethodType) (args : List Value) :
    Blind hidden (fun _ => True) (checkArguments method type args) := by
  refine .look fun hm => ?_
  rw [hm.fits]
  refine .ite (.throw _) ?_
  split
  · exact .throw _
  · exact .pure ⟨rfl, trivial⟩

end Run

end EntityForge
