import EntityForge.Proofs.Generated.AccessorCalls
import EntityForge.Proofs.Generated.Completion

/-!
Starting a session. Once the classes of a pass are loaded, new objects of the entity and accessors
of its properties can be made, in a machine with whatever objects; the objects hold the initial
values of the declared fields.
-/

namespace EntityForge

open Run

/-- The classes of a pass as they are loaded: the entity with its layout, and the accessor of each
property. -/
structure Generator.Loads (g : Generator) (r : ClassRegistry) (c : ClassMeta) (e : Entity)
    (entity : LoadedClass) (accessorClass : Property → LoadedClass)
    (inherited own : List FieldSlot) : Prop where
  links : r.Links e.name entity
  body : entity.body = g.mode.entityBody c e
  ownSlots : ClassRegistry.ownSlots c.compiled = .ok own
  layout : EntityLayout entity inherited own
  accessors : ∀ p ∈ e.properties,
    r.Links (GeneratedName.accessor e.name p.name) (accessorClass p) ∧
      (⟨e.name, p⟩ : AccessorShape).Loaded g.mode.backend (accessorClass p)

namespace Generator

variable {g : Generator} {r r' : ClassRegistry} {c : ClassMeta} {generated : GeneratedEntity}
  {bodies : List ClassBody} {body : ClassBody}

private theorem Installs.links (h : g.Installs r r' c generated bodies body)
    (hall : r'.AllLoad generated.classNames) {b : ClassBody}
    (hb : b ∈ g.mode.bodies c generated.entity bodies body) :
    ∃ loaded, r'.Links b.name loaded ∧ loaded.body = b ∧
      ∃ inherited own, ClassRegistry.ownSlots b = .ok own ∧ loaded.slots = inherited ++ own := by
  obtain ⟨record, hrecord, hencodes⟩ := Checked.forall₂_mem_right h.makes.records hb
  obtain ⟨loaded, hload⟩ := hall record.name (List.mem_map_of_mem hrecord)
  rw [hencodes.name] at hload
  have hlinks := ClassRegistry.load_ok_iff.mp hload
  exact ⟨loaded, hlinks, (h.stores b hb).links h.sound hlinks⟩

theorem Installs.loads (h : g.Installs r r' c generated bodies body)
    (hall : r'.AllLoad generated.classNames) (hnames : (c.fields.map (·.name)).Nodup) :
    ∃ entity accessorClass inherited own,
      g.Loads r' c generated.entity entity accessorClass inherited own := by
  obtain ⟨entity, hlinks, hbody, inherited, own, hown, hslots⟩ :=
    h.links hall (b := g.mode.entityBody c generated.entity) (by simp [GenerationMode.bodies])
  have haccessors : ∀ p ∈ generated.entity.properties, ∃ accessor,
      r'.Links (GeneratedName.accessor generated.entity.name p.name) accessor ∧
        (⟨generated.entity.name, p⟩ : AccessorShape).Loaded g.mode.backend accessor := by
    intro p hp
    obtain ⟨accessor, hlinks, hbody, inherited, own, hown, hslots⟩ :=
      h.links hall (b := g.mode.backend.accessorBody ⟨generated.entity.name, p⟩) (by
        simp only [GenerationMode.bodies, List.mem_append, List.mem_cons, List.mem_map]
        exact .inl (.inl (.inr ⟨p, hp, rfl⟩)))
    rw [Backend.accessorBody_name] at hlinks
    exact ⟨accessor, hlinks, hbody, inherited, own, hbody ▸ hown, hslots⟩
  choose! accessorClass haccessorClass using haccessors
  rw [GenerationMode.ownSlots_entityBody] at hown
  rw [GenerationMode.entityBody_name, ← h.describes.name] at hlinks
  exact ⟨entity, accessorClass, inherited, own, hlinks, hbody, hown,
    ⟨hslots, ClassMeta.ownSlots_nodup hown hnames⟩, haccessorClass⟩

/-- The types of field properties are those of their fields, up to erasure. -/
def KeepsTypes (c : ClassMeta) (e : Entity) : Prop :=
  ∀ p ∈ e.properties, p.access = .field → ∀ f ∈ c.fields, f.name = p.name →
    p.type.erasedDescriptor = f.descriptor

instance (c : ClassMeta) (e : Entity) : Decidable (KeepsTypes c e) :=
  inferInstanceAs (Decidable (∀ p ∈ e.properties, p.access = .field → ∀ f ∈ c.fields,
    f.name = p.name → p.type.erasedDescriptor = f.descriptor))

/-- The value that a property starts with: what the declared field of its name starts with. -/
def Initially (c : ClassMeta) (p : Property) (v : Value) : Prop :=
  ∃ f ∈ c.fields, f.name = p.name ∧ ∃ type, Signature.parseType f.descriptor = .ok type ∧
    StartsWith f.constant type v

variable {e : Entity} {entity : LoadedClass} {accessorClass : Property → LoadedClass}
  {inherited own : List FieldSlot}

/-- A declared field stands behind a property of its name and its type. -/
theorem Loads.backed_by (h : g.Loads r c e entity accessorClass inherited own) {p : Property}
    (hdenotable : p.type.Denotable) {f : FieldMeta} (hmember : f ∈ c.fields)
    (hinstance : f.has AccessFlag.isStatic = false) (hname : f.name = p.name)
    (htype : p.type.erasedDescriptor = f.descriptor) :
    ∃ i field, p.Backed own i field ∧ StartsWith f.constant field.type field.initial := by
  obtain ⟨field, hmem, hfield, hparse, hstarts⟩ :=
    ClassMeta.slot_of_field h.ownSlots hmember hinstance
  obtain ⟨i, hi⟩ := List.mem_iff_getElem?.mp hmem
  rw [← htype, Signature.parseType_erased hdenotable] at hparse
  exact ⟨i, field, ⟨hdenotable, hi, hfield.trans hname, (Except.ok.inj hparse).symm⟩, hstarts⟩

/-- A field property stands for the declared field of its name. -/
theorem Loads.backed (h : g.Loads r c e entity accessorClass inherited own)
    (hdescribes : e.Describes c) (htypes : KeepsTypes c e) {p : Property} (hp : p ∈ e.properties)
    (haccess : p.access = .field) :
    ∃ i field, p.Backed own i field ∧ Initially c p field.initial := by
  cases hdescribes.found p hp with
  | method getter setter _ _ hmethod => cases haccess.symm.trans hmethod
  | field f hmember hinstance hname _ =>
    have hdenotable := hdescribes.denotable p hp
    have htype := htypes p hp haccess f hmember hname.symm
    obtain ⟨i, field, hbacked, hstarts⟩ :=
      h.backed_by hdenotable hmember hinstance hname.symm htype
    refine ⟨i, field, hbacked, f, hmember, hname.symm, field.type, ?_, hstarts⟩
    rw [← htype, Signature.parseType_erased hdenotable, hbacked.type]

end Generator

theorem Counter.keepsTypes (name : String) (superName : Option String) :
    Generator.KeepsTypes (classMeta name superName) (entity name) := by
  intro p hp _ f hf _
  obtain rfl := List.mem_singleton.mp hp
  obtain rfl := List.mem_singleton.mp hf
  decide

theorem Counter.fieldNames (name : String) (superName : Option String) :
    ((classMeta name superName).fields.map (·.name)).Nodup := List.nodup_singleton _

theorem Counter.spares (name : String) (superName : Option String) (properties : List Property) :
    (classMeta name superName).SparesInjected properties := nofun

theorem Counter.properties {e : Entity} {name : String} (he : e = entity name) :
    ∀ p ∈ [property], p ∈ e.properties ∧ p.access = .field := by
  intro p hp
  obtain rfl := List.mem_singleton.mp hp
  rw [he]
  exact ⟨List.mem_singleton_self _, rfl⟩

/-- An accessor still serves when there are more objects. -/
theorem AccessorShape.Serves.grows {s : AccessorShape} {entity : LoadedClass} {slot self : Nat}
    {m m' : Machine} (h : s.Serves entity slot m self) (hself : self < m.heap.size)
    (hgrows : m.Grows m') : s.Serves entity slot m' self := by
  cases h with
  | calling hget hset hreader hwriter =>
    refine .calling ?_ ?_ hreader hwriter
    · rw [hgrows.classOf hself, hget]
    · rw [hgrows.classOf hself, hset]
  | resolving handle type haccess hholds hbinds =>
    exact .resolving handle type haccess (hholds.same (hgrows.object self hself)) hbinds

namespace AccessorSession

def start (e : Entity) (count : Nat) (properties : List Property) : Run AccessorSession := do
  let objects ← (List.replicate count e.name).mapM fun name =>
    Run.instantiate name Construction.plain []
  let accessors ← properties.mapM fun p => do
    return (p, ← Accessor.ofClass (GeneratedName.accessor e.name p.name))
  return { objects, accessors }

/-- The session that stands behind a number of objects. -/
def behind (base : Nat) (e : Entity) (count : Nat) (properties : List Property) :
    AccessorSession where
  objects := ((List.replicate count e.name).zipIdx base).map (·.2)
  accessors := (properties.zipIdx (base + count)).map fun (p, id) => (p, .generated id)

/-- The store of new objects: every declared field has the initial value of its slot. -/
def initialStore (own : List FieldSlot) : FieldStore := fun _ name =>
  ((own.find? fun slot => slot.name = name).map (·.initial)).getD .null

variable {inherited own : List FieldSlot} {entity : LoadedClass}

theorem initialStore_slot (hlayout : EntityLayout entity inherited own) {slot : FieldSlot}
    (hslot : slot ∈ own) (id : Nat) : initialStore own id slot.name = slot.initial := by
  unfold initialStore
  cases hfind : own.find? fun other => other.name = slot.name with
  | none =>
    have hmissed := List.find?_eq_none.mp hfind slot hslot
    simp at hmissed
  | some other =>
    obtain ⟨i, hi⟩ := List.mem_iff_getElem?.mp hslot
    obtain ⟨j, hj⟩ := List.mem_iff_getElem?.mp (List.mem_of_find?_eq_some hfind)
    have hname : other.name = slot.name := by simpa using List.find?_some hfind
    have hsame := hlayout.field_eq hi hj hname
    subst hsame
    cases hi.symm.trans hj
    rfl

theorem mem_objects_behind {base count : Nat} {e : Entity} {properties : List Property} {id : Nat} :
    id ∈ (behind base e count properties).objects ↔ base ≤ id ∧ id < base + count := by
  unfold behind
  simp only [List.mem_map, Prod.exists, exists_eq_right, List.mem_zipIdx_iff_le_and_getElem?_sub,
    List.getElem?_replicate]
  constructor
  · rintro ⟨name, hbase, hget⟩
    split at hget
    · omega
    · cases hget
  · rintro ⟨hbase, hbound⟩
    exact ⟨e.name, hbase, if_pos (by omega)⟩

end AccessorSession

namespace Generator.Loads

variable {g : Generator} {r : ClassRegistry} {c : ClassMeta} {e : Entity} {entity : LoadedClass}
  {accessorClass : Property → LoadedClass} {inherited own : List FieldSlot} {m : Machine}

theorem name (h : g.Loads r c e entity accessorClass inherited own) (hname : e.name = c.name) :
    entity.name = e.name := by
  rw [LoadedClass.name, h.body, GenerationMode.entityBody_name, hname]

/-- Making an object of the entity. -/
theorem instantiate_on (h : g.Loads r c e entity accessorClass inherited own)
    (hm : r.Later m.registry) :
    ∃ m', (Run.instantiate e.name Construction.plain []).on m = (.ok m.heap.size, m') ∧
      m.Grows m' ∧ m'.heap.size = m.heap.size + 1 ∧
      m'.object m.heap.size = ⟨entity, entity.initialFields⟩ := by
  obtain ⟨r', hlater, hmade⟩ := constructWith_idle 255 (hm.links_iff.mpr h.links)
    fun method hdeclared => by
      rw [LoadedClass.declaredMethod?, h.body] at hdeclared
      exact GenerationMode.constructor_code hdeclared
  exact ⟨_, hmade, Machine.allocated_grows hlater entity, m.allocated_size r' entity,
    m.object_allocated r' entity⟩

/-- Making an accessor of a field property. -/
theorem ofClass_on (h : g.Loads r c e entity accessorClass inherited own)
    (hdescribes : e.Describes c) (hspares : c.SparesInjected e.properties)
    (hm : r.Later m.registry) {p : Property} (hp : p ∈ e.properties) (haccess : p.access = .field)
    {i : Nat} {field : FieldSlot} (hbacked : p.Backed own i field) :
    ∃ m', (Accessor.ofClass (GeneratedName.accessor e.name p.name)).on m =
        (.ok (.generated m.heap.size), m') ∧
      m.Grows m' ∧ m'.heap.size = m.heap.size + 1 ∧ m'.classOf m.heap.size = accessorClass p ∧
      (⟨e.name, p⟩ : AccessorShape).Serves entity (inherited.length + i) m' m.heap.size := by
  obtain ⟨hlinks, hloaded⟩ := h.accessors p hp
  have hlinks := hm.links_iff.mpr hlinks
  have hfront := h.layout.fronted hbacked
  have hname := h.name hdescribes.name
  cases hcalls : g.mode.backend.needsAugmentation with
  | true =>
    have haugments : g.mode.augmentsEntity = true := by
      cases hmode : g.mode with
      | runtime =>
        rw [hmode] at hcalls
        cases hcalls
      | selfContained => rfl
    have hmethod {method name descriptor}
        (hfound : (g.mode.entityBody c e).method? name descriptor = some method) :
        entity.findMethod? name descriptor = some method :=
      LoadedClass.findMethod?_own (h.body ▸ hfound)
    have hclassName : entity.name = c.name := hname.trans hdescribes.name
    obtain ⟨r', hlater, hmade, hserves⟩ := hloaded.make_calling 255
      (inherited.length + i) hcalls hlinks
      (hclassName ▸ hmethod (GenerationMode.reader_found haugments hspares hp))
      (hclassName ▸ hmethod (GenerationMode.writer_found haugments hspares hp))
    refine ⟨_, hloaded.ofClass_on hmade (m.classOf_allocated r' _),
      Machine.allocated_grows hlater _, m.allocated_size r' _, m.classOf_allocated r' _, hserves⟩
  | false =>
    obtain ⟨front, hfound, _⟩ := hfront.field
    obtain ⟨m', handle, hmade, hgrows, hsize, hstands, hbinds, hholds⟩ :=
      hloaded.make_resolving 255 hcalls haccess hlinks (hm.links_iff.mpr h.links) hfront.found
        hfound
    exact ⟨m', hloaded.ofClass_on hmade hstands.type, hgrows, hsize, hstands.type,
      .resolving handle _ haccess hholds hbinds⟩

/-- Objects of the entity are made behind those that are there. -/
private theorem objects_on (h : g.Loads r c e entity accessorClass inherited own)
    (hm : r.Later m.registry) (count : Nat) (properties : List Property) :
    ∃ m', ((List.replicate count e.name).mapM fun name =>
        Run.instantiate name Construction.plain []).on m =
        (.ok (AccessorSession.behind m.heap.size e count properties).objects, m') ∧
      m.Grows m' ∧ m'.heap.size = m.heap.size + count ∧
      ∀ id ∈ (AccessorSession.behind m.heap.size e count properties).objects,
        id < m'.heap.size ∧ m'.object id = ⟨entity, entity.initialFields⟩ := by
  obtain ⟨m', hobjects, hgrows, hsize, hheld⟩ := mapM_makes
    (f := fun name => Run.instantiate name Construction.plain []) (g := fun _ id => id)
    (P := fun _ m id => id < m.heap.size ∧ m.object id = ⟨entity, entity.initialFields⟩)
    (List.replicate count e.name)
    (by
      rintro _ m m' id ⟨_, hobject⟩ hid hgrows
      exact ⟨Nat.lt_of_lt_of_le hid hgrows.size, (hgrows.object id hid).trans hobject⟩)
    (by
      intro m hm name hname
      obtain rfl := (List.mem_replicate.mp hname).2
      obtain ⟨m', hmade, hgrows, hsize, hobject⟩ := h.instantiate_on hm
      exact ⟨m', hmade, hgrows, hsize, by omega, hobject⟩) hm
  rw [List.length_replicate] at hsize
  refine ⟨m', hobjects, hgrows, hsize, ?_⟩
  intro id hid
  obtain ⟨⟨name, id'⟩, hmem, rfl⟩ := List.mem_map.mp hid
  exact hheld name id' hmem

/-- New objects of the entity and accessors that reach it make a session that holds the initial
values. -/
private theorem holds_initial (h : g.Loads r c e entity accessorClass inherited own)
    (hname : e.name = c.name) {base count : Nat} {properties : List Property}
    (hobjects : ∀ id ∈ (AccessorSession.behind base e count properties).objects,
      id < m.heap.size ∧ m.object id = ⟨entity, entity.initialFields⟩)
    (haccessors : ∀ p id, (p, id) ∈ properties.zipIdx (base + count) →
      ∃ i field, p.Backed own i field ∧
        (⟨e.name, p⟩ : AccessorShape).Serves entity (inherited.length + i) m id) :
    (AccessorSession.behind base e count properties).Holds entity inherited own
      (AccessorSession.initialStore own) m := by
  have hinitial (slot : FieldSlot) (hslot : slot ∈ own) (id : Nat) :
      AccessorSession.initialStore own id slot.name = slot.initial :=
    AccessorSession.initialStore_slot h.layout hslot id
  refine ⟨h.layout, ?_, ?_, ?_⟩
  · intro id hid
    obtain ⟨hbound, hheld⟩ := hobjects id hid
    refine ⟨hbound, hheld.trans ?_⟩
    rw [LoadedClass.initialFields, h.layout.slots, List.map_append]
    congr 2
    exact List.map_congr_left fun slot hslot => (hinitial slot hslot id).symm
  · intro id _ slot hslot
    rw [hinitial slot hslot]
    obtain ⟨f, _, hlays⟩ :=
      Checked.forall₂_mem_right (ClassRegistry.ownSlots_lays h.ownSlots) hslot
    exact hlays.fits m.isInstance
  · intro p accessor hmem
    obtain ⟨⟨p', self⟩, hplace, heq⟩ := List.mem_map.mp hmem
    cases heq
    obtain ⟨i, field, hbacked, hserves⟩ := haccessors p self hplace
    refine ⟨self, i, field, rfl, ?_, hbacked, ?_⟩
    · rw [AccessorSession.mem_objects_behind]
      have hbehind := (List.mem_zipIdx_iff_le_and_getElem?_sub.mp hplace).1
      omega
    · rw [h.name hname]
      exact hserves

/-- A session is started behind the objects that are there: its objects hold the initial values, and
its accessors reach them. -/
theorem start_on (h : g.Loads r c e entity accessorClass inherited own)
    (hdescribes : e.Describes c) (htypes : Generator.KeepsTypes c e)
    (hspares : c.SparesInjected e.properties) (hm : r.Later m.registry) (count : Nat)
    {properties : List Property}
    (hproperties : ∀ p ∈ properties, p ∈ e.properties ∧ p.access = .field) :
    ∃ m', (AccessorSession.start e count properties).on m =
        (.ok (.behind m.heap.size e count properties), m') ∧
      m.Grows m' ∧ m'.heap.size = m.heap.size + count + properties.length ∧
      (∀ p id, (p, id) ∈ properties.zipIdx (m.heap.size + count) →
        m'.classOf id = accessorClass p) ∧
      (AccessorSession.behind m.heap.size e count properties).Holds entity inherited own
        (AccessorSession.initialStore own) m' := by
  obtain ⟨m₁, hobjects, hgrows₁, hsize₁, hmade⟩ := h.objects_on hm count properties
  obtain ⟨m₂, haccessors, hgrows₂, hsize₂, hheld⟩ := mapM_makes
    (f := fun p : Property => do
      return (p, ← Accessor.ofClass (GeneratedName.accessor e.name p.name)))
    (g := fun p id => (p, Accessor.generated id))
    (P := fun p m id => id < m.heap.size ∧ m.classOf id = accessorClass p ∧
      ∃ i field, p.Backed own i field ∧
        (⟨e.name, p⟩ : AccessorShape).Serves entity (inherited.length + i) m id)
    properties
    (by
      rintro p m m' id ⟨_, hclass, i, field, hbacked, hserves⟩ hid hgrows
      exact ⟨Nat.lt_of_lt_of_le hid hgrows.size, (hgrows.classOf hid).trans hclass, i, field,
        hbacked, hserves.grows hid hgrows⟩)
    (by
      intro m hm p hp
      obtain ⟨hmem, haccess⟩ := hproperties p hp
      obtain ⟨i, field, hbacked, _⟩ := h.backed hdescribes htypes hmem haccess
      obtain ⟨m', hmade, hgrows, hsize, hclass, hserves⟩ :=
        h.ofClass_on hdescribes hspares hm hmem haccess hbacked
      exact ⟨m', on_bind_ok hmade, hgrows, hsize, by omega, hclass, i, field, hbacked, hserves⟩)
    (hm.trans hgrows₁.registry)
  rw [hsize₁] at haccessors hsize₂ hheld
  refine ⟨m₂, ?_, hgrows₁.trans hgrows₂, hsize₂, fun p id hmem => (hheld p id hmem).2.1, ?_⟩
  · unfold AccessorSession.start
    rw [on_bind_ok hobjects, on_bind_ok haccessors]
    rfl
  · refine h.holds_initial hdescribes.name ?_ fun p id hmem => (hheld p id hmem).2.2
    intro id hid
    obtain ⟨hbound, hobject⟩ := hmade id hid
    exact ⟨Nat.lt_of_lt_of_le hbound hgrows₂.size, (hgrows₂.object id hbound).trans hobject⟩

end Generator.Loads

end EntityForge
