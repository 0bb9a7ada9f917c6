import EntityForge.Proofs.Machine.Instructions

/-!
Making objects. A new object stands behind all others, with the initial values of its class, and its
constructor runs on the machine in which it stands. While objects are made, classes may be loaded,
but no object that was there before changes.
-/

namespace EntityForge

namespace Machine

variable {m m' m'' : Machine} {c : LoadedClass} {r : ClassRegistry}

/-- More objects and more loaded classes; the objects that were there are as they were. -/
structure Grows (m m' : Machine) : Prop where
  registry : m.registry.Later m'.registry
  size : m.heap.size ≤ m'.heap.size
  object : ∀ id < m.heap.size, m'.object id = m.object id

namespace Grows

theorem refl (m : Machine) : m.Grows m := ⟨.refl _, Nat.le_refl _, fun _ _ => rfl⟩

theorem trans (h : m.Grows m') (h' : m'.Grows m'') : m.Grows m'' where
  registry := h.registry.trans h'.registry
  size := Nat.le_trans h.size h'.size
  object id hid := (h'.object id (Nat.lt_of_lt_of_le hid h.size)).trans (h.object id hid)

theorem classOf (h : m.Grows m') {id : Nat} (hid : id < m.heap.size) :
    m'.classOf id = m.classOf id := by
  rw [classOf_object, classOf_object, h.object id hid]

theorem isInstance (h : m.Grows m') {id : Nat} (hid : id < m.heap.size) (target : String) :
    m'.isInstance id target = m.isInstance id target := by
  rw [Machine.isInstance, h.classOf hid, Machine.isInstance]

theorem field? (h : m.Grows m') {id : Nat} (hid : id < m.heap.size) (name : String) :
    m'.field? id name = m.field? id name := by
  rw [Machine.field?, h.classOf hid, h.object id hid, Machine.field?]

/-- Writing an object that was not there before is growth, too. -/
theorem put (h : m.Grows m') {id : Nat} (hid : m.heap.size ≤ id) (slot : Nat) (v : Value) :
    m.Grows (m'.put id slot v) where
  registry := h.registry
  size := by rw [put_size]; exact h.size
  object other hother := by
    rw [object_put_ne m' id slot v (Nat.ne_of_lt (Nat.lt_of_lt_of_le hother hid))]
    exact h.object other hother

end Grows

/-- The machine with a new object, after its class was loaded. -/
def allocated (m : Machine) (r : ClassRegistry) (c : LoadedClass) : Machine :=
  { m with registry := r, heap := m.heap.push ⟨c, c.initialFields⟩ }

@[simp] theorem allocated_size (m : Machine) (r : ClassRegistry) (c : LoadedClass) :
    (m.allocated r c).heap.size = m.heap.size + 1 := Array.size_push _

theorem object_allocated (m : Machine) (r : ClassRegistry) (c : LoadedClass) :
    (m.allocated r c).object m.heap.size = ⟨c, c.initialFields⟩ := by
  unfold object allocated
  rw [Array.getElem?_push_size, Option.getD_some]

theorem classOf_allocated (m : Machine) (r : ClassRegistry) (c : LoadedClass) :
    (m.allocated r c).classOf m.heap.size = c := by
  rw [classOf_object, object_allocated]

theorem allocated_grows (hlater : m.registry.Later r) (c : LoadedClass) :
    m.Grows (m.allocated r c) where
  registry := hlater
  size := by rw [allocated_size]; exact Nat.le_succ _
  object id hid := by
    unfold object allocated
    rw [Array.getElem?_push_lt hid, Array.getElem?_eq_getElem hid]

/-- The machine after more classes are loaded and a handle is numbered. -/
theorem rebound_grows (hlater : m.registry.Later r) (handleCount : Nat) :
    m.Grows { m with registry := r, handleCount } :=
  ⟨hlater, Nat.le_refl _, fun _ _ => rfl⟩

/-! Objects under construction. -/

variable {self : Nat} {name : String} {v w : Value}

/-- An object of a class stands on the heap, with a value in every slot. -/
structure Stands (m : Machine) (id : Nat) (c : LoadedClass) : Prop where
  bound : id < m.heap.size
  type : m.classOf id = c
  room : (m.object id).fields.length = c.slots.length

theorem stands_allocated (m : Machine) (r : ClassRegistry) (c : LoadedClass) :
    (m.allocated r c).Stands m.heap.size c where
  bound := by rw [allocated_size]; exact Nat.lt_succ_self _
  type := m.classOf_allocated r c
  room := by rw [object_allocated, LoadedClass.initialFields, List.length_map]

theorem Stands.grows (h : m.Stands self c) (hgrows : m.Grows m') : m'.Stands self c where
  bound := Nat.lt_of_lt_of_le h.bound hgrows.size
  type := (hgrows.classOf h.bound).trans h.type
  room := by rw [hgrows.object self h.bound, h.room]

theorem Stands.isInstance (h : m.Stands self c) : m.isInstance self c.name = true := by
  rw [Machine.isInstance, h.type]
  exact c.isSubclassOf_self

/-- One field of one object is set, and nothing else happens. -/
structure Sets (id : Nat) (name : String) (v : Value) (m m' : Machine) : Prop where
  registry : m'.registry = m.registry
  size : m'.heap.size = m.heap.size
  object : ∀ other, other ≠ id → m'.object other = m.object other
  stands : ∀ c, m.Stands id c → m'.Stands id c
  field : m'.field? id name = some v
  others : ∀ other, other ≠ name → m'.field? id other = m.field? id other

namespace Sets

theorem refl (h : m.field? self name = some v) : Sets self name v m m :=
  ⟨rfl, rfl, fun _ _ => rfl, fun _ h => h, h, fun _ _ => rfl⟩

theorem trans (h : Sets self name v m m') (h' : Sets self name w m' m'') :
    Sets self name w m m'' where
  registry := h'.registry.trans h.registry
  size := h'.size.trans h.size
  object id hne := (h'.object id hne).trans (h.object id hne)
  stands c hc := h'.stands c (h.stands c hc)
  field := h'.field
  others other hother := (h'.others other hother).trans (h.others other hother)

theorem later (h : Sets self name v m m') : m.registry.Later m'.registry :=
  h.registry ▸ .refl _

/-- The classes of all objects stay as they are. -/
theorem isInstance (h : Sets self name v m m') (hstands : m.Stands self c) (id : Nat)
    (target : String) : m'.isInstance id target = m.isInstance id target := by
  rw [Machine.isInstance, Machine.isInstance]
  by_cases heq : id = self
  · subst heq
    rw [(h.stands c hstands).type, hstands.type]
  · rw [classOf_object, classOf_object, h.object id heq]

end Sets

/-- Setting a field of an object that was not there before is growth, too. -/
theorem Grows.sets (h : m.Grows m') (hself : m.heap.size ≤ self) (hsets : Sets self name v m' m'') :
    m.Grows m'' where
  registry := h.registry.trans hsets.later
  size := hsets.size ▸ h.size
  object id hid := by
    rw [hsets.object id (Nat.ne_of_lt (Nat.lt_of_lt_of_le hid hself)), h.object id hid]

/-- Fields of one object are set one after the other, and nothing else happens. -/
inductive SetsInTurn (id : Nat) : List (String × Value) → Machine → Machine → Prop
  | nil (m : Machine) : SetsInTurn id [] m m
  | cons {m m' m'' : Machine} {name : String} {v : Value} {fields : List (String × Value)}
      (head : Sets id name v m m') (tail : SetsInTurn id fields m' m'') :
      SetsInTurn id ((name, v) :: fields) m m''

namespace SetsInTurn

variable {fields : List (String × Value)}

theorem later (h : SetsInTurn self fields m m') : m.registry.Later m'.registry := by
  induction h with
  | nil => exact .refl _
  | cons head _ ih => exact head.later.trans ih

theorem stands (h : SetsInTurn self fields m m') (hstands : m.Stands self c) : m'.Stands self c := by
  induction h with
  | nil => exact hstands
  | cons head _ ih => exact ih (head.stands c hstands)

theorem others (h : SetsInTurn self fields m m') (hname : name ∉ fields.map (·.1)) :
    m'.field? self name = m.field? self name := by
  induction h with
  | nil => rfl
  | cons head _ ih =>
    rw [List.map_cons, List.mem_cons, not_or] at hname
    exact (ih hname.2).trans (head.others name hname.1)

/-- Each field holds in the end what it was set to, as long as none is set twice. -/
theorem field (h : SetsInTurn self fields m m') (hnames : (fields.map (·.1)).Nodup)
    (hfield : (name, v) ∈ fields) : m'.field? self name = some v := by
  induction h with
  | nil => cases hfield
  | cons head tail ih =>
    obtain ⟨hfresh, hrest⟩ := List.nodup_cons.mp hnames
    rcases List.mem_cons.mp hfield with heq | hmem
    · cases heq
      exact (tail.others hfresh).trans head.field
    · exact ih hrest hmem

end SetsInTurn

theorem Grows.setsInTurn {fields : List (String × Value)} (h : m.Grows m')
    (hself : m.heap.size ≤ self) (hsets : SetsInTurn self fields m' m'') : m.Grows m'' := by
  induction hsets with
  | nil => exact h
  | cons head _ ih => exact ih (h.sets hself head)

/-- Writing the slot that a name finds sets the field. -/
theorem put_sets {slot : Nat} (hstands : m.Stands self c) (hslot : c.slot? name = some slot)
    (hbound : slot < c.slots.length) (v : Value) : Sets self name v m (m.put self slot v) where
  registry := rfl
  size := put_size m self slot v
  object id hne := object_put_ne m self slot v hne
  stands d hd := {
    bound := by rw [put_size]; exact hd.bound
    type := by rw [classOf_put, hd.type]
    room := by rw [object_put_self m self slot v hd.bound, List.length_set, hd.room] }
  field := field?_put_self v (hstands.type ▸ hslot) (hstands.room ▸ hbound) hstands.bound
  others other hother := field?_put_other v (hstands.type ▸ hslot) hstands.bound hother

end Machine

def LoadedClass.Offers (c : LoadedClass) (w : MethodRef) : Prop :=
  (∃ found, c.findMethod? w.name w.descriptor = some found) ∧ IsMethodDescriptor w.descriptor

namespace MemberHandle

structure Binds (h : MemberHandle) (c : LoadedClass) (name : String) (target : HandleTarget) :
    Prop where
  className : h.className = c.name
  name : h.name = name
  target : h.target = target

/-- A handle is bound to a method that a class has. -/
def Calls (h : MemberHandle) (c : LoadedClass) (w : MethodRef) : Prop :=
  (∃ found, c.findMethod? w.name w.descriptor = some found) ∧
    ∃ type, MethodType.parse w.descriptor = .ok type ∧
      h.Binds c w.name (.method w.descriptor type.arity)

end MemberHandle

namespace Run

/-- Setting a field of an object under construction to a value that fits. -/
theorem setField_sets {m : Machine} {c : LoadedClass} {self : Nat} {name : String}
    {type : TypeTree} {v : Value} (hstands : m.Stands self c) (hfield : c.HasField name type)
    (hfits : m.fits v type = true) :
    ∃ m', (setField self name v).on m = (.ok (), m') ∧ Machine.Sets self name v m m' := by
  obtain ⟨slot, field, hslot, hget, rfl⟩ := hfield
  have hbound := (List.getElem?_eq_some_iff.mp hget).1
  refine ⟨m.put self slot v, ?_, Machine.put_sets hstands hslot hbound v⟩
  exact setField_on (hstands.type ▸ hslot) (hstands.type ▸ hget) (hstands.room ▸ hbound) hfits

/-- Storing a value in a field of an object under construction. -/
theorem step_putField_sets (callee : Callee) (methodType : MethodType) (f : Frame) {m : Machine}
    {c : LoadedClass} {self : Nat} {name : String} {type : TypeTree} {v : Value}
    (hstands : m.Stands self c) (hfield : c.HasField name type) (hfits : m.fits v type = true) :
    ∃ m', (step callee methodType ((f.push (.object self)).push v) (.putField c.name name)).on m =
        (.ok (.running f), m') ∧ Machine.Sets self name v m m' := by
  obtain ⟨m', hset, hsets⟩ := setField_sets hstands hfield hfits
  exact ⟨m', step_putField hstands.isInstance hset, hsets⟩

variable {m : Machine} {c : LoadedClass} {className : String}

/-- Making an object runs the constructor that its class declares on the machine in which the new
object stands. -/
theorem constructWith_on (callee : Callee) (descriptor : String) (args : List Value)
    (hlinks : m.registry.Links className c) :
    ∃ r, m.registry.Later r ∧ r.loaded.get? className = some c ∧
      (∀ constructor v m', c.declaredMethod? Construction.name descriptor = some constructor →
        (callee m.heap.size constructor args).on (m.allocated r c) = (.ok v, m') →
        (constructWith callee className descriptor args).on m = (.ok m.heap.size, m')) ∧
      (c.declaredMethod? Construction.name descriptor = none → descriptor = Construction.plain →
        args = [] →
        (constructWith callee className descriptor args).on m =
          (.ok m.heap.size, m.allocated r c)) := by
  obtain ⟨r, hload, hlater, hloaded⟩ := load_on hlinks
  have hallocate : (allocate c).on { m with registry := r } =
      (.ok m.heap.size, m.allocated r c) := rfl
  refine ⟨r, hlater, hloaded, ?_, ?_⟩
  · intro constructor v m' hdeclared hrun
    rw [constructWith, on_bind_ok hload, on_bind_ok hallocate, hdeclared]
    exact on_bind_ok hrun
  · rintro hnone rfl rfl
    rw [constructWith, on_bind_ok hload, on_bind_ok hallocate, hnone]
    rfl

/-- Objects that are made in turn stand in turn, and what holds of each of them when it is made still
holds in the end, as long as further objects do not disturb it. -/
theorem mapM_makes {α β : Type} {f : α → Run β} {g : α → Nat → β} {P : α → Machine → Nat → Prop}
    {r : ClassRegistry} (items : List α)
    (hstable : ∀ a m m' id, P a m id → id < m.heap.size → m.Grows m' → P a m' id)
    (hmake : ∀ m, r.Later m.registry → ∀ a ∈ items, ∃ m', (f a).on m =
      (.ok (g a m.heap.size), m') ∧ m.Grows m' ∧ m'.heap.size = m.heap.size + 1 ∧
        P a m' m.heap.size) (hm : r.Later m.registry) :
    ∃ m', (items.mapM f).on m =
        (.ok ((items.zipIdx m.heap.size).map fun (a, id) => g a id), m') ∧
      m.Grows m' ∧ m'.heap.size = m.heap.size + items.length ∧
      ∀ a id, (a, id) ∈ items.zipIdx m.heap.size → P a m' id := by
  induction items generalizing m with
  | nil => exact ⟨m, rfl, .refl m, rfl, by simp⟩
  | cons a items ih =>
    obtain ⟨m₁, hfirst, hgrows₁, hsize₁, hholds₁⟩ := hmake m hm a (by simp)
    obtain ⟨m₂, hrest, hgrows₂, hsize₂, hholds₂⟩ :=
      ih (fun m hm a ha => hmake m hm a (by simp [ha])) (hm.trans hgrows₁.registry)
    rw [hsize₁] at hrest hsize₂ hholds₂
    refine ⟨m₂, ?_, hgrows₁.trans hgrows₂, ?_, ?_⟩
    · rw [List.mapM_cons, on_bind_ok hfirst, on_bind_ok hrest, List.zipIdx_cons, List.map_cons]
      rfl
    · rw [hsize₂, List.length_cons]
      omega
    · intro b id hmem
      rw [List.zipIdx_cons] at hmem
      rcases List.mem_cons.mp hmem with heq | hmem
      · cases heq
        exact hstable _ _ _ _ hholds₁ (by omega) hgrows₂
      · exact hholds₂ b id hmem

/-- Runs that leave the machine as it is, one after the other. -/
theorem mapM_on {α β : Type} {f : α → Run β} {items : List α} {results : List β}
    (h : List.Forall₂ (fun a b => (f a).on m = (.ok b, m)) items results) :
    (items.mapM f).on m = (.ok results, m) := by
  induction h with
  | nil => rfl
  | cons hhead _ ih =>
    rw [List.mapM_cons, on_bind_ok hhead, on_bind_ok ih]
    rfl

/-- Binding a field of a class that links. -/
theorem resolveField_on {name : String} {slot : Nat} {field : FieldSlot}
    (hlinks : m.registry.Links className c) (hslot : c.slot? name = some slot)
    (hfield : c.slots[slot]? = some field) :
    ∃ r h, m.registry.Later r ∧ h.Binds c name (.field slot field.type) ∧
      (resolveField className name).on m =
        (.ok h, { m with registry := r, handleCount := m.handleCount + 1 }) := by
  obtain ⟨r, hload, hlater, _⟩ := load_on hlinks
  refine ⟨r, ⟨m.handleCount, c.name, name, .field slot field.type⟩, hlater, ⟨rfl, rfl, rfl⟩, ?_⟩
  rw [resolveField, on_bind_ok hload]
  simp only [hslot, hfield]
  rfl

/-- Binding a method that a class offers. -/
theorem resolveMethod_on {w : MethodRef} (hlinks : m.registry.Links className c)
    (hoffers : c.Offers w) :
    ∃ r h, m.registry.Later r ∧ h.Calls c w ∧
      (resolveMethod className w.name w.descriptor).on m =
        (.ok (some h), { m with registry := r, handleCount := m.handleCount + 1 }) := by
  obtain ⟨⟨found, hfound⟩, type, hparse⟩ := hoffers
  obtain ⟨r, hload, hlater, _⟩ := load_on hlinks
  refine ⟨r, ⟨m.handleCount, c.name, w.name, .method w.descriptor type.arity⟩, hlater,
    ⟨⟨found, hfound⟩, type, hparse, rfl, rfl, rfl⟩, ?_⟩
  rw [resolveMethod, on_bind_ok hload]
  simp only [hfound, methodType_ok hparse, on_lift_bind_ok]
  rfl

/-- Binding a required method that a class offers. -/
theorem bindMethod_on {w : MethodRef} {required : Bool} (hlinks : m.registry.Links className c)
    (hoffers : c.Offers w) :
    ∃ h m', (bindMethod className w.name w.descriptor required).on m = (.ok (.handle h), m') ∧
      m.Grows m' ∧ h.Calls c w := by
  obtain ⟨r, h, hlater, hcalls, hresolve⟩ := resolveMethod_on hlinks hoffers
  refine ⟨h, _, ?_, Machine.rebound_grows hlater (m.handleCount + 1), hcalls⟩
  have hadapt := on_adapt_ok (.missingLookup className (w.name ++ w.descriptor) ·) hresolve
  rw [bindMethod]
  exact on_bind_ok hadapt

end Run

end EntityForge
