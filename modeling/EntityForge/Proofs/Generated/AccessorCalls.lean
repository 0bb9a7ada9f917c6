import EntityForge.Proofs.Generated.AccessorClass

/-!
Sequences of accessor calls. Some objects of an entity and accessors of its properties stand for a
store: each declared field of each object holds a value. A read answers from the store, a write
changes one place of it or nothing, and a sequence of calls answers what the store answers call by
call.
-/

namespace EntityForge

open Run

/-- One call of an accessor: a read, or a write of a value. -/
structure AccessorCall where
  property : Property
  accessor : Accessor
  object : Nat
  written : Option Value

namespace AccessorCall

/-- Makes a call. A write answers null. -/
def run (call : AccessorCall) : Run Value :=
  match call.written with
  | none => call.accessor.get call.object
  | some v => do
    call.accessor.set call.object v
    return .null

/-- The machine after some calls, whether or not they failed. -/
def after (calls : List AccessorCall) (m : Machine) : Machine :=
  calls.foldl (fun m call => (call.run.on m).2) m

end AccessorCall

abbrev FieldStore := Nat → String → Value

def FieldStore.set (σ : FieldStore) (object : Nat) (field : String) (v : Value) : FieldStore :=
  fun id name => if id = object ∧ name = field then v else σ id name

namespace AccessorCall

/-- What a call answers from a store, given which objects of the entity pass the check of their
class and which values fit which types. -/
def answer (call : AccessorCall) (entity : String) (admitted : Nat → Bool)
    (fits : Value → TypeTree → Bool) (σ : FieldStore) : Except Failure Value :=
  let shape : AccessorShape := ⟨entity, call.property⟩
  match call.written with
  | none => shape.reading (admitted call.object) (σ call.object call.property.name)
  | some v =>
    (shape.writing (admitted call.object) (fits v call.property.type) v).map fun _ => .null

def store (call : AccessorCall) (admitted : Nat → Bool) (fits : Value → TypeTree → Bool)
    (σ : FieldStore) : FieldStore :=
  match call.written with
  | none => σ
  | some v =>
    if admitted call.object && fits v call.property.type then
      σ.set call.object call.property.name v
    else σ

end AccessorCall

structure AccessorSession where
  objects : List Nat
  accessors : List (Property × Accessor)

namespace AccessorSession

/-- A call of one of the accessors on one of the objects. -/
def Admits (session : AccessorSession) (call : AccessorCall) : Prop :=
  (call.property, call.accessor) ∈ session.accessors ∧ call.object ∈ session.objects

end AccessorSession

/-- How the class of an entity lays out its fields: those that it declares stand behind those that
it inherits, under distinct names. -/
structure EntityLayout (entity : LoadedClass) (inherited own : List FieldSlot) : Prop where
  slots : entity.slots = inherited ++ own
  names : (own.map (·.name)).Nodup

/-- A property stands for a declared field of its type. -/
structure Property.Backed (p : Property) (own : List FieldSlot) (i : Nat) (field : FieldSlot) :
    Prop where
  denotable : p.type.Denotable
  place : own[i]? = some field
  name : field.name = p.name
  type : field.type = p.type.erased

namespace EntityLayout

variable {entity : LoadedClass} {inherited own : List FieldSlot} {p : Property} {i : Nat}
  {field : FieldSlot}

theorem fronted (hlayout : EntityLayout entity inherited own) (h : p.Backed own i field) :
    p.Fronted entity (inherited.length + i) where
  denotable := h.denotable
  found := h.name ▸ LoadedClass.slot?_own hlayout.slots hlayout.names h.place
  field := by
    refine ⟨field, ?_, h.type⟩
    rw [hlayout.slots, List.getElem?_append_right (Nat.le_add_right _ _), Nat.add_sub_cancel_left,
      h.place]

/-- A declared field is known by its name. -/
theorem field_eq (hlayout : EntityLayout entity inherited own) {j : Nat} {other : FieldSlot}
    (h : own[i]? = some field) (hother : own[j]? = some other) (hname : other.name = field.name) :
    j = i := by
  have hbound := (List.getElem?_eq_some_iff.mp hother).1
  refine (List.getElem?_inj (by simpa using hbound) hlayout.names).mp ?_
  rw [List.getElem?_map, List.getElem?_map, h, hother]
  simp [hname]

/-- The values of the declared fields after one of them is written. -/
theorem values_set (hlayout : EntityLayout entity inherited own) (h : own[i]? = some field)
    (σ : FieldStore) (object : Nat) (v : Value) :
    (own.map fun slot => σ object slot.name).set i v =
      own.map fun slot => σ.set object field.name v object slot.name := by
  refine List.ext_getElem? fun j => ?_
  rw [List.getElem?_set, List.getElem?_map, List.getElem?_map]
  cases hj : own[j]? with
  | none =>
    have hbound := List.getElem?_eq_none_iff.mp hj
    by_cases hij : i = j
    · subst hij
      cases hj.symm.trans h
    · simp [hij]
  | some other =>
    have hbound : j < own.length := (List.getElem?_eq_some_iff.mp hj).1
    by_cases hij : i = j
    · subst hij
      cases hj.symm.trans h
      simp [hbound, FieldStore.set]
    · have hname : other.name ≠ field.name := fun heq => hij (hlayout.field_eq h hj heq).symm
      simp [hij, FieldStore.set, hname]

end EntityLayout

/-- Moving an accessor to the machine after a write that is not to the accessor itself. -/
theorem AccessorShape.Serves.put {s : AccessorShape} {c : LoadedClass} {slot self object place : Nat}
    {m : Machine} {v : Value} (h : s.Serves c slot m self) (hne : self ≠ object) :
    s.Serves c slot (m.put object place v) self := by
  cases h with
  | calling hget hset hreader hwriter =>
    refine .calling ?_ ?_ hreader hwriter
    · rw [Machine.classOf_put, hget]
    · rw [Machine.classOf_put, hset]
  | resolving handle type haccess hholds hbinds =>
    exact .resolving handle type haccess (hholds.same (m.object_put_ne object place v hne)) hbinds

namespace AccessorSession

variable {session : AccessorSession} {entity : LoadedClass} {inherited own : List FieldSlot}
  {σ : FieldStore} {m : Machine} {call : AccessorCall}

/-- The objects of a session hold the values of a store, behind the initial values of the fields
that they inherit, and its accessors reach them. -/
structure Holds (session : AccessorSession) (entity : LoadedClass) (inherited own : List FieldSlot)
    (σ : FieldStore) (m : Machine) : Prop where
  layout : EntityLayout entity inherited own
  objects : ∀ id ∈ session.objects, id < m.heap.size ∧
    m.object id = ⟨entity, inherited.map (·.initial) ++ own.map fun slot => σ id slot.name⟩
  fits : ∀ id ∈ session.objects, ∀ slot ∈ own, m.fits (σ id slot.name) slot.type = true
  accessors : ∀ p accessor, (p, accessor) ∈ session.accessors →
    ∃ self i field, accessor = .generated self ∧ self ∉ session.objects ∧ p.Backed own i field ∧
      (⟨entity.name, p⟩ : AccessorShape).Serves entity (inherited.length + i) m self

/-- What stands in the place of a property. -/
private theorem Holds.value (h : session.Holds entity inherited own σ m) {id i : Nat}
    (hid : id ∈ session.objects) {field : FieldSlot} (hfield : own[i]? = some field) :
    (m.object id).fields[inherited.length + i]? = some (σ id field.name) := by
  have hlength : inherited.length = (inherited.map (·.initial)).length := by
    rw [List.length_map]
  rw [(h.objects id hid).2, hlength, List.getElem?_append_right (Nat.le_add_right _ _),
    Nat.add_sub_cancel_left, List.getElem?_map, hfield]
  rfl

/-- The declared fields of an object hold the values of the store. -/
theorem Holds.field? (h : session.Holds entity inherited own σ m) {id : Nat}
    (hid : id ∈ session.objects) {slot : FieldSlot} (hslot : slot ∈ own) :
    m.field? id slot.name = some (σ id slot.name) := by
  obtain ⟨i, hi⟩ := List.mem_iff_getElem?.mp hslot
  have hfound : (m.classOf id).slot? slot.name = some (inherited.length + i) := by
    rw [Machine.classOf_object, (h.objects id hid).2]
    exact LoadedClass.slot?_own h.layout.slots h.layout.names hi
  rw [Machine.field?_of_slot hfound, h.value hid hi]

/-- Writing a value that fits changes the store in one place. -/
private theorem Holds.put (h : session.Holds entity inherited own σ m) {object i : Nat}
    (hobject : object ∈ session.objects) {p : Property} {field : FieldSlot}
    (hbacked : p.Backed own i field) {v : Value} (hfits : m.fits v p.type = true) :
    session.Holds entity inherited own (σ.set object p.name v)
      (m.put object (inherited.length + i) v) where
  layout := h.layout
  objects id hid := by
    obtain ⟨hbound, hheld⟩ := h.objects id hid
    refine ⟨by rwa [Machine.put_size], ?_⟩
    by_cases hsame : id = object
    · subst hsame
      have hlength : inherited.length = (inherited.map (·.initial)).length := by
        rw [List.length_map]
      rw [Machine.object_put_self m id _ v hbound, hheld]
      simp only [Instance.mk.injEq, true_and]
      rw [hlength, List.set_append_right _ _ (Nat.le_add_right _ _), Nat.add_sub_cancel_left,
        h.layout.values_set hbacked.place, hbacked.name]
    · rw [Machine.object_put_ne m object _ v hsame, hheld]
      simp [FieldStore.set, hsame]
  fits id hid slot hslot := by
    rw [Machine.fits_put]
    unfold FieldStore.set
    split
    · next hplace =>
      obtain ⟨j, hj⟩ := List.mem_iff_getElem?.mp hslot
      have hij := h.layout.field_eq hbacked.place hj (hplace.2.trans hbacked.name.symm)
      subst hij
      cases hj.symm.trans hbacked.place
      rw [hbacked.type]
      exact (Value.fits_erased m.isInstance v p.type).trans hfits
    · exact h.fits id hid slot hslot
  accessors q accessor hq := by
    obtain ⟨self, j, other, rfl, hself, hother, hserves⟩ := h.accessors q accessor hq
    refine ⟨self, j, other, rfl, hself, hother, hserves.put ?_⟩
    rintro rfl
    exact hself hobject

/-- One call answers what the store answers, and leaves the machine in the state of the store after
the call. It changes no class, so the same objects are admitted and the same values fit; a read or a
call that fails changes nothing at all. -/
theorem Holds.step (h : session.Holds entity inherited own σ m) (call : AccessorCall)
    (hcall : session.Admits call) :
    ∃ m', call.run.on m =
        (call.answer entity.name (fun id => m.conforms (.object id) entity.name) m.fits σ, m') ∧
      m'.isInstance = m.isInstance ∧
      (call.written = none ∨ (call.run.on m).1.isOk = false → m' = m) ∧
      session.Holds entity inherited own
        (call.store (fun id => m.conforms (.object id) entity.name) m.fits σ) m' := by
  obtain ⟨p, accessor, object, written⟩ := call
  obtain ⟨haccessor, hobject⟩ := hcall
  obtain ⟨self, i, field, rfl, hself, hbacked, hserves⟩ := h.accessors p accessor haccessor
  have hclass : m.classOf object = entity := by
    rw [Machine.classOf_object, (h.objects object hobject).2]
  have hfront := h.layout.fronted hbacked
  have hvalue := h.value hobject hbacked.place
  cases written with
  | none =>
    refine ⟨m, ?_, rfl, fun _ => rfl, h⟩
    have hfits : m.fits (σ object p.name) p.type = true := by
      have hfield := h.fits object hobject field (List.mem_of_getElem? hbacked.place)
      rw [hbacked.name, hbacked.type] at hfield
      exact (Value.fits_erased m.isInstance _ p.type).symm.trans hfield
    exact hserves.get_on hfront rfl hclass (hbacked.name ▸ hvalue) hfits
  | some v =>
    have hbound := (List.getElem?_eq_some_iff.mp hvalue).1
    have hset := hserves.set_on (v := v) hfront rfl hclass hbound
    have hrun : (AccessorCall.run ⟨p, .generated self, object, some v⟩).on m =
        (((⟨entity.name, p⟩ : AccessorShape).writing (m.conforms (.object object) entity.name)
          (m.fits v p.type) v).map fun _ => .null,
          (⟨entity.name, p⟩ : AccessorShape).written m object (inherited.length + i) v) := by
      unfold AccessorCall.run
      dsimp only
      rw [on_bind, hset]
      cases AccessorShape.writing _ _ _ v <;> rfl
    refine ⟨_, hrun, ?_, ?_, ?_⟩
    · unfold AccessorShape.written
      split
      · rw [Machine.isInstance_put]
      · rfl
    · rw [hrun]
      unfold AccessorShape.written AccessorShape.writing
      cases m.conforms (.object object) entity.name <;> cases m.fits v p.type <;>
        simp [Except.map, Except.isOk, Except.toBool]
    · unfold AccessorShape.written AccessorCall.store
      dsimp only
      split
      · next hdone => exact h.put hobject hbacked (Bool.and_eq_true_iff.mp hdone).2
      · exact h

/-- After any calls the machine is in the state of the store after them, and admits and accepts what
it did before. -/
theorem Holds.run (h : session.Holds entity inherited own σ m) (calls : List AccessorCall)
    (hcalls : ∀ call ∈ calls, session.Admits call) :
    (AccessorCall.after calls m).isInstance = m.isInstance ∧
      session.Holds entity inherited own
        (calls.foldl (fun σ call =>
          call.store (fun id => m.conforms (.object id) entity.name) m.fits σ) σ)
        (AccessorCall.after calls m) := by
  induction calls generalizing σ m with
  | nil => exact ⟨rfl, h⟩
  | cons call calls ih =>
    obtain ⟨m', hrun, hsame, _, hnext⟩ := h.step call (hcalls call (by simp))
    have hafter : AccessorCall.after (call :: calls) m = AccessorCall.after calls m' := by
      unfold AccessorCall.after
      rw [List.foldl_cons, hrun]
    obtain ⟨hrest, hholds⟩ := ih hnext fun other hother => hcalls other (by simp [hother])
    rw [hafter]
    refine ⟨hrest.trans hsame, ?_⟩
    unfold Machine.conforms Machine.fits at hholds ⊢
    rw [hsame] at hholds
    exact hholds

end AccessorSession

end EntityForge
