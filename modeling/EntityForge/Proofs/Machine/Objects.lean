import EntityForge.Proofs.Machine.Running
import EntityForge.Proofs.Registry.Slots

/-!
Objects on the heap. A write changes one slot of one object and no class, so what conforms and what
fits is the same before and after it; fields are found by name, and the fields that a class declares
itself hide all others.
-/

namespace EntityForge

namespace Machine

variable (m : Machine) (id slot : Nat) (v : Value)

def object : Instance := m.heap[id]?.getD default

/-- The machine after a slot of an object is written. -/
def put : Machine :=
  { m with
    heap := m.heap.setIfInBounds id
      { m.object id with fields := (m.object id).fields.set slot v } }

theorem classOf_object : m.classOf id = (m.object id).type := rfl

/-- An object is an instance of its class. -/
theorem isInstance_own {m : Machine} {id : Nat} {c : LoadedClass} (hclass : m.classOf id = c) :
    m.isInstance id c.name = true := by
  rw [isInstance, hclass]
  exact c.isSubclassOf_self

/-- A place behind the heap has no object. -/
theorem classOf_none (h : m.heap.size ≤ id) : m.classOf id = (default : Instance).type := by
  rw [classOf, Array.getElem?_eq_none h, Option.getD_none]

@[simp] theorem put_registry : (m.put id slot v).registry = m.registry := rfl

@[simp] theorem put_handleCount : (m.put id slot v).handleCount = m.handleCount := rfl

@[simp] theorem put_size : (m.put id slot v).heap.size = m.heap.size :=
  Array.size_setIfInBounds

theorem object_put_ne {other : Nat} (h : other ≠ id) :
    (m.put id slot v).object other = m.object other := by
  unfold object put
  rw [Array.getElem?_setIfInBounds_ne (Ne.symm h)]

theorem object_put_self (h : id < m.heap.size) :
    (m.put id slot v).object id =
      { m.object id with fields := (m.object id).fields.set slot v } := by
  have hget : (m.put id slot v).heap[id]? =
      some { m.object id with fields := (m.object id).fields.set slot v } := by
    unfold put
    exact Array.getElem?_setIfInBounds_self_of_lt h
  rw [object, hget, Option.getD_some]

/-- Behind the heap nothing is written. -/
theorem put_none {m : Machine} {id slot : Nat} {v : Value} (h : m.heap.size ≤ id) :
    m.put id slot v = m := by
  rw [put, Array.setIfInBounds, dif_neg (Nat.not_lt_of_le h)]

/-- What was in a slot does not matter once it is written again. -/
theorem put_put (w : Value) : (m.put id slot v).put id slot w = m.put id slot w := by
  by_cases hbound : id < m.heap.size
  · have hself := object_put_self m id slot v hbound
    conv_lhs => rw [put, hself]
    simp only [put, List.set_set, Array.setIfInBounds_setIfInBounds]
  · rw [put_none (Nat.le_of_not_lt hbound)]

/-- Writing what is in a slot already does nothing. -/
theorem put_same {m : Machine} {id slot : Nat} {v : Value}
    (h : (m.object id).fields[slot]? = some v) : m.put id slot v = m := by
  have hfields : (m.object id).fields.set slot v = (m.object id).fields := by
    obtain ⟨hbound, rfl⟩ := List.getElem?_eq_some_iff.mp h
    exact List.set_getElem_self hbound
  have hheap : m.heap.setIfInBounds id (m.object id) = m.heap := by
    unfold object Array.setIfInBounds
    split
    · next hbound => simp [Array.getElem?_eq_getElem hbound]
    · rfl
  rw [put, hfields, hheap]

/-- Writing a slot changes no class. -/
@[simp] theorem classOf_put (other : Nat) : (m.put id slot v).classOf other = m.classOf other := by
  rw [classOf_object, classOf_object]
  by_cases hsame : other = id
  · subst hsame
    by_cases hbound : other < m.heap.size
    · rw [object_put_self m other slot v hbound]
    · rw [put_none (Nat.le_of_not_lt hbound)]
  · rw [object_put_ne m id slot v hsame]

@[simp] theorem isInstance_put : (m.put id slot v).isInstance = m.isInstance := by
  funext other target
  rw [isInstance, classOf_put, isInstance]

@[simp] theorem conforms_put : (m.put id slot v).conforms = m.conforms := by
  funext w target
  rw [conforms, isInstance_put, conforms]

@[simp] theorem fits_put : (m.put id slot v).fits = m.fits := by
  funext w t
  rw [fits, isInstance_put, fits]

/-- The value of the field that a name finds in an object. -/
def field? (name : String) : Option Value :=
  ((m.classOf id).slot? name).bind fun slot => (m.object id).fields[slot]?

variable {m id}

theorem field?_of_slot {name : String} {slot : Nat} (h : (m.classOf id).slot? name = some slot) :
    m.field? id name = (m.object id).fields[slot]? := by
  rw [field?, h, Option.bind_some]

theorem field?_put_self {slot : Nat} (v : Value) {name : String}
    (hslot : (m.classOf id).slot? name = some slot) (hbound : slot < (m.object id).fields.length)
    (hid : id < m.heap.size) : (m.put id slot v).field? id name = some v := by
  have hslot' : ((m.put id slot v).classOf id).slot? name = some slot := by
    rw [classOf_put, hslot]
  rw [field?_of_slot hslot', object_put_self m id slot v hid, List.getElem?_set_self hbound]

/-- Writing the field of one name leaves the fields of all other names alone. -/
theorem field?_put_other {slot : Nat} (v : Value) {name other : String}
    (hslot : (m.classOf id).slot? name = some slot) (hid : id < m.heap.size)
    (hne : other ≠ name) : (m.put id slot v).field? id other = m.field? id other := by
  rw [field?, classOf_put, object_put_self m id slot v hid, field?]
  cases hother : (m.classOf id).slot? other with
  | none => rfl
  | some slot' =>
    have hapart : slot ≠ slot' := by
      rintro rfl
      obtain ⟨s, hs, hname⟩ := LoadedClass.slot?_some hslot
      obtain ⟨s', hs', hname'⟩ := LoadedClass.slot?_some hother
      cases hs.symm.trans hs'
      exact hne (hname'.symm.trans hname)
    simp only [Option.bind_some]
    exact List.getElem?_set_ne hapart

end Machine

namespace Run

variable {m : Machine} {id slot : Nat} {name : String} {v : Value}

theorem read_on (h : (m.object id).fields[slot]? = some v) :
    (read id slot).on m = (.ok v, m) := by
  have hfield : ((m.heap[id]?.getD default).fields[slot]?) = some v := h
  simp only [read, on_get_bind, hfield]
  rfl

theorem fieldSlot_on (h : (m.classOf id).slot? name = some slot) :
    (fieldSlot id name).on m = (.ok slot, m) := by
  have hclass : (classOf id).on m = (.ok (m.classOf id), m) := rfl
  rw [fieldSlot, on_bind_ok hclass]
  simp only [h]
  rfl

theorem fieldSlot_none (h : (m.classOf id).slot? name = none) :
    (fieldSlot id name).on m = (.error (.noField name (m.classOf id).name), m) := by
  have hclass : (classOf id).on m = (.ok (m.classOf id), m) := rfl
  rw [fieldSlot, on_bind_ok hclass, h]
  rfl

theorem getField_on (hslot : (m.classOf id).slot? name = some slot)
    (h : (m.object id).fields[slot]? = some v) : (getField id name).on m = (.ok v, m) := by
  rw [getField, on_bind_ok (fieldSlot_on hslot), read_on h]

theorem getField_field? (h : m.field? id name = some v) : (getField id name).on m = (.ok v, m) := by
  obtain ⟨slot, hslot, hvalue⟩ := Option.bind_eq_some_iff.mp h
  exact getField_on hslot hvalue

theorem store_on {field : FieldSlot} (hfield : (m.classOf id).slots[slot]? = some field)
    (hbound : slot < (m.object id).fields.length) (hfits : m.fits v field.type = true) :
    (store id slot v).on m = (.ok (), m.put id slot v) := by
  have hwritable : slot < (m.heap[id]?.getD default).fields.length := hbound
  simp only [store, on_get_bind, hfield, hfits, if_true, write, hwritable]
  rfl

theorem setField_on {field : FieldSlot} (hslot : (m.classOf id).slot? name = some slot)
    (hfield : (m.classOf id).slots[slot]? = some field)
    (hbound : slot < (m.object id).fields.length) (hfits : m.fits v field.type = true) :
    (setField id name v).on m = (.ok (), m.put id slot v) := by
  rw [setField, on_bind_ok (fieldSlot_on hslot), store_on hfield hbound hfits]

/-- A value that does not fit the field is refused, and nothing is written. -/
theorem setField_misfit {field : FieldSlot} (hslot : (m.classOf id).slot? name = some slot)
    (hfield : (m.classOf id).slots[slot]? = some field) (hfits : m.fits v field.type = false) :
    (setField id name v).on m =
      (.error (.cannotStore v.kindName (m.classOf id).name field.name field.type), m) := by
  rw [setField, on_bind_ok (fieldSlot_on hslot), store, on_get_bind]
  simp only [hfield, hfits]
  rfl

theorem checkInstance_on {className : String} (h : m.isInstance id className = true) :
    (checkInstance id className).on m = (.ok (), m) := by
  have hclass : (classOf id).on m = (.ok (m.classOf id), m) := rfl
  have hsubclass : (m.classOf id).isSubclassOf className = true := h
  rw [checkInstance, on_bind_ok hclass, if_pos hsubclass]
  rfl

theorem checkReceiver_on {h : MemberHandle} (hreceiver : m.isInstance id h.className = true) :
    (checkReceiver h id).on m = (.ok (), m) := by
  have hclass : (classOf id).on m = (.ok (m.classOf id), m) := rfl
  have hsubclass : (m.classOf id).isSubclassOf h.className = true := hreceiver
  rw [checkReceiver, on_bind_ok hclass, if_pos hsubclass]
  rfl

theorem allocate_on (c : LoadedClass) (m : Machine) :
    (allocate c).on m =
      (.ok m.heap.size, { m with heap := m.heap.push ⟨c, c.initialFields⟩ }) := rfl

/-- Loading a class is loading it in the registry. -/
theorem load_run (name : String) (m : Machine) :
    (load name).on m =
      ((m.registry.load name).1, { m with registry := (m.registry.load name).2 }) := by
  rw [load, on_get_bind]
  cases m.registry.load name with
  | mk result registry => rw [on_set_bind, on_lift]

/-- A class that was loaded is kept. -/
theorem load_keeps {m' : Machine} {c : LoadedClass} (h : (load name).on m = (.ok c, m')) :
    m'.registry.loaded.get? name = some c := by
  rw [load_run] at h
  obtain ⟨hanswer, rfl⟩ := Prod.mk.inj h
  exact ((ClassRegistry.loadChain_links [] name m.registry.loaded).2 c hanswer).2

/-- Loading a class that links. -/
theorem load_on {c : LoadedClass} (h : m.registry.Links name c) :
    ∃ r, (load name).on m = (.ok c, { m with registry := r }) ∧ m.registry.Later r ∧
      r.loaded.get? name = some c := by
  obtain ⟨r, hload, hlater, hloaded⟩ := ClassRegistry.load_links h
  refine ⟨r, ?_, hlater, hloaded⟩
  rw [load_run, hload]

/-- Reading through a handle that is bound to a field. -/
theorem handleGetWith_on {callee : Callee} {h : MemberHandle} {t : TypeTree}
    (htarget : h.target = .field slot t) (hreceiver : m.isInstance id h.className = true)
    (hvalue : (m.object id).fields[slot]? = some v) :
    (handleGetWith callee h id).on m = (.ok v, m) := by
  rw [handleGetWith, on_bind_ok (checkReceiver_on hreceiver), htarget]
  exact read_on hvalue

/-- Writing through a handle that is bound to a field. -/
theorem handleSetWith_on {callee : Callee} {h : MemberHandle} {t : TypeTree}
    (htarget : h.target = .field slot t) (hreceiver : m.isInstance id h.className = true)
    {field : FieldSlot} (hfield : (m.classOf id).slots[slot]? = some field)
    (hbound : slot < (m.object id).fields.length) (hfits : m.fits v field.type = true) :
    (handleSetWith callee h id v).on m = (.ok (), m.put id slot v) := by
  rw [handleSetWith, on_bind_ok (checkReceiver_on hreceiver), htarget]
  exact store_on hfield hbound hfits

theorem callWith_on {callee : Callee} {method : MethodDef} {descriptor : String}
    {args : List Value} (h : (m.classOf id).findMethod? name descriptor = some method) :
    (callWith callee id name descriptor args).on m = (callee id method args).on m := by
  have hclass : (classOf id).on m = (.ok (m.classOf id), m) := rfl
  rw [callWith, on_bind_ok hclass, h]

end Run

end EntityForge
