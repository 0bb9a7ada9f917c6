import EntityForge.Proofs.Generated.Loading
import EntityForge.Proofs.Machine.BoundFields

/-!
Bound accessors against generated ones. Where the entity stays as it is declared, the generated
accessor of a property goes through handles of the same members that a bound accessor goes through.
It checks a value before its handle does, but it refuses exactly what a slot or a setter refuses; so
the two end alike on every object of the entity or of a class linked behind it.
-/

namespace EntityForge

open Run

variable {m m' : Machine} {c : LoadedClass} {get get' : MemberHandle}
  {set set' : Option MemberHandle} {object : Nat} {v : Value}

namespace Run

variable {α : Type}

/-- Two runs end alike on a machine: with one answer or with failures of one category, and in one
state. -/
def Agree (m : Machine) (x y : Run α) : Prop :=
  (x.on m).1.mapError Failure.category = (y.on m).1.mapError Failure.category ∧
    (x.on m).2 = (y.on m).2

theorem Agree.of_eq {x y : Run α} (h : x.on m = y.on m) : Agree m x y := by
  rw [Agree, h]
  exact ⟨rfl, rfl⟩

theorem Agree.of_errors {x y : Run α} {e e' : Failure} (hx : x.on m = (.error e, m'))
    (hy : y.on m = (.error e', m')) (hcategory : e.category = e'.category) : Agree m x y := by
  rw [Agree, hx, hy]
  exact ⟨congrArg Except.error hcategory, rfl⟩

end Run

/-! Members of a class and their handles. -/

namespace Property

variable {p : Property}

/-- A class has the members behind a property, which are of its type up to erasure. -/
inductive Offered (p : Property) (c : LoadedClass) : Prop where
  | field {slot : Nat} {field : FieldSlot} (haccess : p.access = .field)
      (hslot : c.slot? p.name = some slot) (hfield : c.slots[slot]? = some field)
      (htype : field.type = p.type.erased)
  | method {getter : MethodRef} {setter : Option MethodRef}
      (haccess : p.access = .method getter setter) (hgetter : c.Offers getter)
      (hsetter : ∀ w ∈ setter, c.Offers w)
      (hanswers : getter.descriptor = "()" ++ p.type.erasedDescriptor)
      (htakes : ∀ w ∈ setter, w.descriptor = "(" ++ p.type.erasedDescriptor ++ ")V")

inductive Bound (p : Property) (c : LoadedClass) : MemberHandle → Option MemberHandle → Prop where
  | field {slot : Nat} {field : FieldSlot} {h : MemberHandle} (haccess : p.access = .field)
      (hslot : c.slot? p.name = some slot) (hfield : c.slots[slot]? = some field)
      (htype : field.type = p.type.erased) (hbinds : h.Binds c p.name (.field slot field.type)) :
      Bound p c h (some h)
  | method {getter : MethodRef} {setter : Option MethodRef} {get : MemberHandle}
      {set : Option MemberHandle} (haccess : p.access = .method getter setter)
      (hanswers : getter.descriptor = "()" ++ p.type.erasedDescriptor)
      (htakes : ∀ w ∈ setter, w.descriptor = "(" ++ p.type.erasedDescriptor ++ ")V")
      (hget : get.Calls c getter) (hset : Option.Rel (fun h w => h.Calls c w) set setter) :
      Bound p c get set

end Property

/-- Handles of one method are used alike. -/
theorem MemberHandle.Calls.alike {callee : Callee} {h h' : MemberHandle} {w : MethodRef}
    (hcalls : h.Calls c w) (hcalls' : h'.Calls c w) :
    handleGetWith callee h = handleGetWith callee h' ∧
      handleSetWith callee h = handleSetWith callee h' := by
  obtain ⟨_, type, hparse, hbinds⟩ := hcalls
  obtain ⟨_, type', hparse', hbinds'⟩ := hcalls'
  cases hparse.symm.trans hparse'
  exact hbinds.alike hbinds'

section Methods

variable {h : MemberHandle} {w : MethodRef} {t : TypeTree} (hcalls : h.Calls c w)
  (hdenotable : t.Denotable) (hinstance : m.isInstance object c.name = true)
include hcalls hdenotable hinstance

/-- Reading through the handle of a getter is calling it. -/
theorem MemberHandle.Calls.get_on (hanswers : w.descriptor = "()" ++ t.erasedDescriptor) :
    (Run.handleGet h object).on m =
      (callWith (execute 255) object w.name w.descriptor []).on m := by
  obtain ⟨_, type, hparse, hbinds⟩ := hcalls
  rw [hanswers] at hparse
  cases hparse.symm.trans (MethodType.parse_answering hdenotable)
  exact hbinds.get_calls hinstance

/-- Writing through the handle of a setter is calling it. -/
theorem MemberHandle.Calls.set_on (htakes : w.descriptor = "(" ++ t.erasedDescriptor ++ ")V") :
    (Run.handleSet h object v).on m =
      (callWith (execute 255) object w.name w.descriptor [v] >>= fun _ => pure ()).on m := by
  obtain ⟨_, type, hparse, hbinds⟩ := hcalls
  rw [htakes] at hparse
  cases hparse.symm.trans (MethodType.parse_taking hdenotable)
  exact hbinds.set_calls hinstance

end Methods

namespace Property.Bound

variable {p : Property}

/-- Handles of the same members read and write alike. -/
theorem alike (h : p.Bound c get set) (h' : p.Bound c get' set') :
    Run.handleGet get = Run.handleGet get' ∧
      Option.Rel (fun w w' => Run.handleSet w = Run.handleSet w') set set' := by
  cases h with
  | field haccess hslot hfield _ hbinds =>
    cases h' with
    | method haccess' => cases haccess.symm.trans haccess'
    | field _ hslot' hfield' _ hbinds' =>
      cases hslot.symm.trans hslot'
      cases hfield.symm.trans hfield'
      exact ⟨(hbinds.alike hbinds').1, .some (hbinds.alike hbinds').2⟩
  | method haccess _ _ hget hset =>
    cases h' with
    | field haccess' => cases haccess.symm.trans haccess'
    | method haccess' _ _ hget' hset' =>
      cases haccess.symm.trans haccess'
      refine ⟨(hget.alike hget').1, ?_⟩
      cases hset with
      | none =>
        cases hset'
        exact .none
      | some hcalls =>
        cases hset' with
        | some hcalls' => exact .some (hcalls.alike hcalls').2

/-- There is a handle for writing exactly if the property can be written. -/
theorem isReadOnly (h : p.Bound c get set) : p.access.isReadOnly = set.isNone := by
  cases h with
  | field haccess =>
    rw [haccess]
    rfl
  | method haccess _ _ _ hset =>
    rw [haccess]
    cases hset <;> rfl

section Objects

variable {below : List ClassBody} (hm : m.HeapTyped) (hid : object < m.heap.size)
  (habove : c.Above below (m.classOf object)) (hdenotable : p.type.Denotable)
include hm hid habove hdenotable

/-- What is read through a handle fits the property. -/
theorem fits (h : p.Bound c get set) (hread : (Run.handleGet get object).on m = (.ok v, m')) :
    m'.fits v p.type = true := by
  suffices hfits : m'.fits v p.type.erased = true from
    (Value.fits_erased m'.isInstance v p.type).symm.trans hfits
  have hinstance : m.isInstance object c.name = true := habove.isSubclassOf
  cases h with
  | field haccess hslot hfield htype hbinds =>
    have hplace := habove.slot_at (hm.linked hid) hfield
    obtain ⟨w, hvalue, hget⟩ :=
      (hm.reaches hid hbinds.target (hbinds.className ▸ hinstance) hplace).get
    cases hget.symm.trans hread
    exact htype ▸ Checked.forall₂_getElem? (hm.fields object hid) hvalue hplace
  | method haccess hanswers _ hget _ =>
    have hparse := MethodType.parse_answering hdenotable
    rw [← hanswers] at hparse
    obtain ⟨type, hparse', hreturns⟩ :=
      hm.call_returns ((hget.get_on hdenotable hinstance hanswers).symm.trans hread)
    cases hparse.symm.trans hparse'
    exact hreturns

/-- A value that does not fit the property is refused by the handle for writing, too, and nothing
changes. -/
theorem refuses {write : MemberHandle} (h : p.Bound c get (some write))
    (hfits : m.fits v p.type = false) :
    ∃ e, (Run.handleSet write object v).on m = (.error e, m) ∧ e.category = .typeMismatch := by
  have hmisfit : m.fits v p.type.erased = false :=
    (Value.fits_erased m.isInstance v p.type).trans hfits
  have hinstance : m.isInstance object c.name = true := habove.isSubclassOf
  cases h with
  | field haccess hslot hfield htype hbinds =>
    have hplace := habove.slot_at (hm.linked hid) hfield
    exact ⟨_, (hm.reaches hid hbinds.target (hbinds.className ▸ hinstance) hplace).refuse v
      (htype ▸ hmisfit), rfl⟩
  | method haccess _ htakes _ hset =>
    obtain ⟨hcalls⟩ := hset
    obtain ⟨found, hfound⟩ := hcalls.1
    obtain ⟨method, hmethod⟩ := habove.findMethod? hfound
    obtain ⟨_, _, hdescriptor⟩ := (hm.linked hid).method hmethod
    have hparse := MethodType.parse_taking hdenotable
    rw [← htakes _ rfl, ← hdescriptor] at hparse
    have hcall := (callWith_on hmethod).trans
      (@execute_misfit _ _ 254 object _ _ _ hparse hmisfit)
    exact ⟨_, (hcalls.set_on hdenotable hinstance (htakes _ rfl)).trans (on_bind_error hcall), rfl⟩

end Objects

end Property.Bound

/-! Making the two accessors. -/

/-- An accessor that goes through handles is made over the members that the entity has. -/
theorem AccessorShape.Loaded.make_handles {s : AccessorShape} {backend : Backend}
    {accessor : LoadedClass} (h : s.Loaded backend accessor) (levels : Nat)
    (hresolves : backend.needsAugmentation = false)
    (hlinks : m.registry.Links s.className accessor) (hentity : m.registry.Links s.entity c)
    (hoffered : s.property.Offered c) :
    ∃ m' get set, (constructWith (execute (levels + 1)) s.className Construction.plain []).on m =
        (.ok m.heap.size, m') ∧
      m.Grows m' ∧ m'.Stands m.heap.size accessor ∧ s.property.Bound c get set ∧
      s.Holds get set m' m.heap.size := by
  cases hoffered with
  | field haccess hslot hfield htype =>
    obtain ⟨m', get, hmade, hgrows, _, hstands, hbinds, hholds⟩ :=
      h.make_resolving levels hresolves haccess hlinks hentity hslot hfield
    exact ⟨m', get, some get, hmade, hgrows, hstands, .field haccess hslot hfield htype hbinds,
      hholds⟩
  | method haccess hgetter hsetter hanswers htakes =>
    obtain ⟨m', get, set, hmade, hgrows, hstands, hget, hset, hholds⟩ :=
      h.make_bound levels hresolves haccess hlinks hentity hgetter hsetter
    exact ⟨m', get, set, hmade, hgrows, hstands, .method haccess hanswers htakes hget hset, hholds⟩

namespace Accessor

variable {entity : String} {p : Property}

theorem bindMethod_on {w : MethodRef} (hlinks : m.registry.Links entity c) (hoffers : c.Offers w) :
    ∃ h m', (bindMethod entity w).on m = (.ok (some h), m') ∧ m.Grows m' ∧ h.Calls c w := by
  obtain ⟨r, h, hlater, hcalls, hresolve⟩ := resolveMethod_on hlinks hoffers
  exact ⟨h, _, on_adapt_ok _ hresolve, Machine.rebound_grows hlater (m.handleCount + 1), hcalls⟩

/-- A bound accessor is made over the members that the class has. -/
theorem ofProperty_on (hlinks : m.registry.Links entity c) (hoffered : p.Offered c) :
    ∃ m' get set, (ofProperty entity p).on m = (.ok (.bound entity p.name get set), m') ∧
      m.Grows m' ∧ p.Bound c get set := by
  unfold ofProperty
  cases hoffered with
  | field haccess hslot hfield htype =>
    obtain ⟨r, h, hlater, hbinds, hresolve⟩ := resolveField_on hlinks hslot hfield
    refine ⟨_, h, some h, ?_, Machine.rebound_grows hlater (m.handleCount + 1),
      .field haccess hslot hfield htype hbinds⟩
    rw [haccess]
    exact on_bind_ok (on_adapt_ok _ hresolve)
  | @method getter setter haccess hgetter hsetter hanswers htakes =>
    obtain ⟨get, m₁, hget, hgrows₁, hgetCalls⟩ := bindMethod_on hlinks hgetter
    rw [haccess]
    cases setter with
    | none =>
      refine ⟨m₁, get, none, ?_, hgrows₁, .method haccess hanswers htakes hgetCalls .none⟩
      exact on_bind_ok hget
    | some w =>
      obtain ⟨set, m₂, hset, hgrows₂, hsetCalls⟩ :=
        bindMethod_on (hgrows₁.registry.links_iff.mpr hlinks) (hsetter w rfl)
      refine ⟨m₂, get, some set, ?_, hgrows₁.trans hgrows₂,
        .method haccess hanswers htakes hgetCalls (.some hsetCalls)⟩
      exact (on_bind_ok hget).trans (on_bind_ok hset)

theorem ofClass_acting (className : String) : (ofClass className).Acting :=
  .bind (constructWith_acting (execute_acting _) _ _ _) fun _ =>
    .bind (classOf_acting _) fun _ => .ite (.pure _) (.throw _)

theorem bindMethod_acting (entity : String) (w : MethodRef) : (bindMethod entity w).Acting :=
  .adapt _ (resolveMethod_acting _ _ _)

theorem ofProperty_acting (entity : String) (p : Property) : (ofProperty entity p).Acting := by
  unfold ofProperty
  cases p.access with
  | field => exact .bind (.adapt _ (resolveField_acting _ _)) fun _ => .pure _
  | method getter setter =>
    refine .bind (bindMethod_acting entity getter) fun get => ?_
    cases get with
    | none => exact .throw _
    | some get =>
      cases setter with
      | none => exact .pure _
      | some w => exact .bind (bindMethod_acting entity w) fun _ => .pure _

/-- Two accessors end alike on an object, whether they read it or write it. -/
structure Agree (a b : Accessor) (m : Machine) (object : Nat) : Prop where
  get : Run.Agree m (a.get object) (b.get object)
  set : ∀ v, Run.Agree m (a.set object v) (b.set object v)

end Accessor

/-- A generated accessor and a bound one, each over handles of the members that the class of the
entity has, agree on the objects of this class and of those linked behind it. -/
theorem AccessorShape.Holds.agree {s : AccessorShape} {self : Nat} (h : s.Holds get set m self)
    (hbound : s.property.Bound c get set) (hbound' : s.property.Bound c get' set')
    (hm : m.HeapTyped) (hid : object < m.heap.size) {below : List ClassBody}
    (habove : c.Above below (m.classOf object)) (hdenotable : s.property.type.Denotable)
    (hadmits : m.conforms (.object object) s.entity = true) :
    (Accessor.generated self).Agree (.bound s.entity s.property.name get' set') m object := by
  obtain ⟨hget, hset⟩ := hbound.alike hbound'
  refine ⟨.of_eq ?_, fun v => ?_⟩
  · refine (h.get_on hadmits fun v m' hread => ?_).trans (congrArg (fun x => (x object).on m) hget)
    exact hbound.fits hm hid habove hdenotable hread
  · cases hset with
    | none => exact .of_eq (h.set_readOnly hbound.isReadOnly hadmits)
    | @some write write' hwrite =>
      cases hfits : m.fits v s.property.type with
      | true =>
        refine .of_eq ((h.set_on hbound.isReadOnly hadmits hfits).trans ?_)
        exact congrArg (fun x => (x object v).on m) hwrite
      | false =>
        obtain ⟨e, hrefused, hcategory⟩ := hbound'.refuses hm hid habove hdenotable hfits
        refine .of_errors (h.set_refuses_value hbound.isReadOnly hadmits hfits) hrefused ?_
        rw [hcategory, AccessorShape.refusal_category]

namespace Generator

variable {g : Generator} {r r' : ClassRegistry} {c : ClassMeta} {generated : GeneratedEntity}
  {bodies : List ClassBody} {body : ClassBody} {entity : LoadedClass} {p : Property}

/-- The types of properties are those of their fields, or what their getters return, up to
erasure. -/
structure KeepsMemberTypes (c : ClassMeta) (e : Entity) : Prop where
  fields : KeepsTypes c e
  getters : ∀ p ∈ e.properties, ∀ getter setter, p.access = .method getter setter →
    getter.descriptor = "()" ++ p.type.erasedDescriptor

/-- The class of the entity has the getter of a property, and its setter if there is one. -/
theorem Installs.offered_method (h : g.Installs r r' c generated bodies body)
    (hlinks : r'.Links generated.entity.name entity) (hp : p ∈ generated.entity.properties)
    {getter : MethodRef} {setter : Option MethodRef} (haccess : p.access = .method getter setter)
    (hanswers : getter.descriptor = "()" ++ p.type.erasedDescriptor) : p.Offered entity := by
  have hdescribes := h.describes
  obtain ⟨returned, hgetter, hsetter⟩ :=
    Entity.ofClass_paired h.makes.described p hp getter setter haccess
  obtain rfl := (String.append_right_inj "()").mp (hgetter.symm.trans hanswers)
  obtain ⟨hfronts, hwell⟩ := h.fronts_entity (hdescribes.name ▸ hlinks)
  obtain ⟨hoffersGetter, hoffersSetter⟩ :=
    offers_members hfronts hwell (hdescribes.found p hp) haccess
  exact .method haccess hoffersGetter hoffersSetter hgetter hsetter

/-- The class of the entity has the members behind a property, and they are of its type. -/
theorem Installs.offered (h : g.Installs r r' c generated bodies body) {accessorClass}
    {inherited own : List FieldSlot}
    (hloads : g.Loads r' c generated.entity entity accessorClass inherited own)
    (htypes : KeepsMemberTypes c generated.entity) (hp : p ∈ generated.entity.properties) :
    p.Offered entity := by
  cases haccess : p.access with
  | field =>
    obtain ⟨i, field, hbacked, _⟩ := hloads.backed h.describes htypes.fields hp haccess
    have hfront := hloads.layout.fronted hbacked
    obtain ⟨field, hfield, htype⟩ := hfront.field
    exact .field haccess hfront.found hfield htype
  | method getter setter =>
    exact h.offered_method hloads.links hp haccess (htypes.getters p hp getter setter haccess)

/-- Where the entity stays as it is declared, the accessor of a property is made over handles of the
members that the class of the entity has. -/
theorem Loads.make_accessor {e : Entity} {accessorClass} {inherited own : List FieldSlot}
    (hloads : g.Loads r' c e entity accessorClass inherited own) (hmode : g.mode = .runtime)
    (hoffered : p.Offered entity) (hp : p ∈ e.properties) (hm : r'.Later m.registry) :
    ∃ m₁ get set, (Accessor.ofClass (GeneratedName.accessor e.name p.name)).on m =
        (.ok (.generated m.heap.size), m₁) ∧
      m.Grows m₁ ∧ m₁.Stands m.heap.size (accessorClass p) ∧ p.Bound entity get set ∧
      (⟨e.name, p⟩ : AccessorShape).Holds get set m₁ m.heap.size := by
  have hresolves : g.mode.backend.needsAugmentation = false := by
    rw [hmode]
    rfl
  obtain ⟨hlinks, hloaded⟩ := hloads.accessors p hp
  obtain ⟨m₁, get, set, hmade, hgrows, hstands, hbound, hholds⟩ := hloaded.make_handles 255
    hresolves (hm.links_iff.mpr hlinks) (hm.links_iff.mpr hloads.links) hoffered
  exact ⟨m₁, get, set, hloaded.ofClass_on hmade hstands.type, hgrows, hstands, hbound, hholds⟩

/-- Both accessors of a property are made, over handles of the members that the class of the entity
has. -/
theorem Installs.make_accessors (h : g.Installs r r' c generated bodies body)
    (hmode : g.mode = .runtime) {accessorClass} {inherited own : List FieldSlot}
    (hloads : g.Loads r' c generated.entity entity accessorClass inherited own)
    (htypes : KeepsMemberTypes c generated.entity) (hp : p ∈ generated.entity.properties)
    (hm : r'.Later m.registry) :
    ∃ m₁ m₂ get set get' set',
      (Accessor.ofClass (GeneratedName.accessor generated.name p.name)).on m =
        (.ok (.generated m.heap.size), m₁) ∧
      (Accessor.ofProperty generated.name p).on m₁ =
        (.ok (.bound generated.name p.name get' set'), m₂) ∧
      m.Grows m₁ ∧ m₁.Grows m₂ ∧ m.heap.size < m₁.heap.size ∧
      p.Bound entity get set ∧ p.Bound entity get' set' ∧
      (⟨generated.name, p⟩ : AccessorShape).Holds get set m₁ m.heap.size := by
  have hoffered := h.offered hloads htypes hp
  obtain ⟨m₁, get, set, hmade, hgrows₁, hstands, hbound, hholds⟩ :=
    hloads.make_accessor hmode hoffered hp hm
  obtain ⟨m₂, get', set', hreflected, hgrows₂, hbound'⟩ :=
    Accessor.ofProperty_on ((hm.trans hgrows₁.registry).links_iff.mpr hloads.links) hoffered
  exact ⟨m₁, m₂, get, set, get', set', hmade, hreflected, hgrows₁, hgrows₂, hstands.bound, hbound,
    hbound', hholds⟩

end Generator

/-! A class of one field, of which one object is made before its accessors are. -/

theorem Counter.keepsMemberTypes (name : String) (superName : Option String) :
    Generator.KeepsMemberTypes (classMeta name superName) (entity name) where
  fields := keepsTypes name superName
  getters p hp getter setter haccess := by
    obtain rfl := List.mem_singleton.mp hp
    cases haccess

def Counter.machine (r : ClassRegistry) (name : String) : Machine :=
  ({ registry := r } : Machine).after [.instantiate name Construction.plain []]

private theorem Counter.accessors_exist {name : String} (h : Checks .runtime name none) :
    ∃ generated r' entity m₁ m₂ get set get' set',
      (Generator.mk {} .runtime).generate {} (classMeta name none) = .ok (generated, r') ∧
      generated.entity = Counter.entity name ∧
      ClassRegistry.DigestsSeparate [] generated.records ∧ r'.AllLoad r'.names ∧
      (Accessor.ofClass (GeneratedName.accessor name property.name)).on (machine r' name) =
        (.ok (.generated 1), m₁) ∧
      (Accessor.ofProperty name property).on m₁ =
        (.ok (.bound name property.name get' set'), m₂) ∧
      m₂.object 0 = ⟨entity, entity.initialFields⟩ ∧ 0 < m₂.heap.size ∧
      m₂.object 1 = m₁.object 1 ∧ entity.name = name ∧
      (⟨name, property⟩ : AccessorShape).Holds get set m₁ 1 ∧ property.Bound entity get' set' := by
  obtain ⟨generated, r', hgenerate, hentity, hdigests, _, _, hall⟩ := loads h
  obtain ⟨bodies, body, hinstalls⟩ :=
    Generator.generate_installs (.new .builtin) hdigests hgenerate
  obtain ⟨entity, accessorClass, inherited, own, hloads⟩ := hinstalls.loads
    (hall.mono (Generator.generate_names hgenerate)) (fieldNames _ _)
  have hclassName : entity.name = generated.entity.name := hloads.name hinstalls.describes.name
  have hname : generated.entity.name = name := congrArg Entity.name hentity
  have hproperty : property ∈ generated.entity.properties := hentity ▸ List.mem_singleton_self _
  obtain ⟨m, hmade, hgrows, hsize, hobject⟩ :=
    hloads.instantiate_on (m := { registry := r' }) (.refl r')
  obtain ⟨m₁, m₂, get, set, get', set', hgenerated, hreflected, hgrows₁, hgrows₂, hself, _, hbound,
    hholds⟩ := hinstalls.make_accessors rfl hloads (hentity ▸ keepsMemberTypes _ _) hproperty
      hgrows.registry
  have hone : m.heap.size = 1 := hsize
  have hmachine : machine r' name = m := by
    rw [machine, Machine.after, ← hname]
    exact congrArg Prod.snd hmade
  rw [hone] at hgenerated hholds hself
  rw [GeneratedEntity.name, hname] at hgenerated hreflected hholds
  refine ⟨generated, r', entity, m₁, m₂, get, set, get', set', hgenerate, hentity, hdigests, hall,
    hmachine ▸ hgenerated, hreflected, ?_, ?_, hgrows₂.object 1 hself, hclassName.trans hname,
    hholds, hbound⟩
  · rw [(hgrows₁.trans hgrows₂).object 0 (by omega)]
    exact hobject
  · have := hgrows₂.size
    omega

namespace Generator

/-- Where the entity stays as it is declared, all its classes load, fields have distinct names and
properties have the types of their members, the generated accessor of a property and the one that
binds its members are made after whatever calls. From then on, after whatever further calls that
leave the generated accessor alone, the two agree on every object of the entity or of a class
linked behind it: reads answer the same or fail alike, and so do writes of any value, which leave
the same machine. Objects of an entity whose name is an array descriptor pass no check of their
class, so such names are left out. -/
theorem accessors_agree {g : Generator} {r r' : ClassRegistry} {c : ClassMeta}
    {generated : GeneratedEntity} (hreachable : r.Reachable)
    (hdigests : ClassRegistry.DigestsSeparate r.records generated.records)
    (hgenerate : g.generate r c = .ok (generated, r')) (hmode : g.mode = .runtime)
    (hall : r'.AllLoad generated.classNames) (hfields : (c.fields.map (·.name)).Nodup)
    (htypes : KeepsMemberTypes c generated.entity)
    (hclassName : generated.name.toList.head? ≠ some '[')
    (before : List MachineCall) {p : Property} (hp : p ∈ generated.entity.properties) :
    ∃ self reflective m₁ m₂,
      (Accessor.ofClass (GeneratedName.accessor generated.name p.name)).on
        (({ registry := r' } : Machine).after before) = (.ok (.generated self), m₁) ∧
      (Accessor.ofProperty generated.name p).on m₁ = (.ok reflective, m₂) ∧
      ∀ later, (m₂.after later).object self = m₁.object self →
        ∀ object < (m₂.after later).heap.size, ∀ (a : LoadedClass) below,
          a.Above below ((m₂.after later).classOf object) → a.name = generated.name →
          (Accessor.generated self).Agree reflective (m₂.after later) object := by
  obtain ⟨bodies, body, hinstalls⟩ := generate_installs hreachable hdigests hgenerate
  obtain ⟨entity, accessorClass, inherited, own, hloads⟩ := hinstalls.loads hall hfields
  have hreachable' : r'.Reachable := generate_reachable hreachable hgenerate
  have hbefore := Machine.after_evolves { registry := r' } before
  obtain ⟨m₁, m₂, get, set, get', set', hmade, hreflected, _, _, _, hbound, hbound', hholds⟩ :=
    hinstalls.make_accessors hmode hloads htypes hp hbefore.later
  refine ⟨_, _, m₁, m₂, hmade, hreflected, ?_⟩
  intro later hkept object hid a below habove hname
  have hevolves : ({ registry := r' } : Machine).Evolves (m₂.after later) := by
    have hmakes := Accessor.ofClass_acting (GeneratedName.accessor generated.name p.name)
      (({ registry := r' } : Machine).after before)
    have hbinds := Accessor.ofProperty_acting generated.name p m₁
    rw [hmade] at hmakes
    rw [hreflected] at hbinds
    exact ((hbefore.trans hmakes).trans hbinds).trans (Machine.after_evolves m₂ later)
  have htyped : (m₂.after later).HeapTyped := (Machine.heap_typed hreachable' []).1.evolves hevolves
  have hclosed := (Machine.heap_typed hreachable' []).1.closed hreachable'.closed hevolves
  -- The class above the object is the one that the name of the entity links to.
  have hsame : a = entity := by
    have hlinks : (m₂.after later).registry.Links a.name a :=
      ⟨0, .cached (htyped.loaded_above hclosed hid habove)⟩
    exact (hname ▸ hlinks).unique (hevolves.later.links_iff.mpr hloads.links)
  subst hsame
  refine (hholds.same hkept).agree hbound hbound' htyped hid habove
    (hinstalls.describes.denotable p hp) ?_
  refine (Value.conformsTo_class _ hclassName _).trans ?_
  have hinstance : (m₂.after later).isInstance object generated.name = true :=
    hname ▸ habove.isSubclassOf
  rw [Value.conformsToClass, hinstance, Bool.or_true]

/-- The accessors of a class of one field agree on an object that was made before them. -/
theorem accessors_agree_counter :
    ∃ generated r' accessor reflective m₁ m₂,
      (Generator.mk {} .runtime).generate {} (Counter.classMeta "app.Counter" none) =
        .ok (generated, r') ∧
      (Accessor.ofClass (GeneratedName.accessor "app.Counter" "a")).on
        (Counter.machine r' "app.Counter") = (.ok accessor, m₁) ∧
      (Accessor.ofProperty "app.Counter" Counter.property).on m₁ = (.ok reflective, m₂) ∧
      (m₂.classOf 0).name = "app.Counter" ∧ accessor.Agree reflective m₂ 0 := by
  have hchecks : Counter.Checks .runtime "app.Counter" none := by decide +kernel
  obtain ⟨generated, r', entity, m₁, m₂, _, _, get, set, hgenerate, hentity, hdigests, hall, hmade,
    hreflected, hobject, hsize, hkept, hname, _⟩ := Counter.accessors_exist hchecks
  have hgenerated : generated.name = "app.Counter" := congrArg Entity.name hentity
  obtain ⟨self, reflective, m₁', m₂', hmade', hreflected', hagree⟩ :=
    accessors_agree (.new .builtin) hdigests hgenerate rfl
      (hall.mono (generate_names hgenerate)) (Counter.fieldNames _ _)
      (hentity ▸ Counter.keepsMemberTypes _ _) (by rw [hgenerated]; decide)
      [.instantiate "app.Counter" Construction.plain []]
      (p := Counter.property) (hentity ▸ List.mem_singleton_self _)
  rw [hgenerated] at hmade' hreflected'
  cases hmade.symm.trans hmade'
  cases hreflected.symm.trans hreflected'
  have hclass : m₂.classOf 0 = entity := congrArg Instance.type hobject
  refine ⟨generated, r', _, _, m₁, m₂, hgenerate, hmade, hreflected, hclass ▸ hname, ?_⟩
  refine hagree [] hkept 0 hsize entity [] ?_ (hname.trans hgenerated.symm)
  rw [Machine.after, List.foldl_nil, hclass]
  exact .self

/-- Objects of an entity that is named like an array do not pass the check of their own class, so
the generated accessor fails where the bound one reads the field. -/
theorem accessors_agree_arrayName :
    ∃ generated r' accessor reflective m₁ m₂,
      (Generator.mk {} .runtime).generate {} (Counter.classMeta "[I" none) = .ok (generated, r') ∧
      generated.name = "[I" ∧ r'.AllLoad r'.names ∧
      ((Counter.classMeta "[I" none).fields.map (·.name)).Nodup ∧
      KeepsMemberTypes (Counter.classMeta "[I" none) generated.entity ∧
      Counter.property ∈ generated.entity.properties ∧
      (Accessor.ofClass (GeneratedName.accessor "[I" "a")).on (Counter.machine r' "[I") =
        (.ok accessor, m₁) ∧
      (Accessor.ofProperty "[I" Counter.property).on m₁ = (.ok reflective, m₂) ∧
      (m₂.classOf 0).name = "[I" ∧ ¬ accessor.Agree reflective m₂ 0 := by
  have hchecks : Counter.Checks .runtime "[I" none := by decide +kernel
  obtain ⟨generated, r', entity, m₁, m₂, _, _, get, set, hgenerate, hentity, hdigests, hall, hmade,
    hreflected, hobject, hsize, hkept, hname, hholds, hbound⟩ := Counter.accessors_exist hchecks
  have hclass : m₂.classOf 0 = entity := congrArg Instance.type hobject
  refine ⟨generated, r', _, _, m₁, m₂, hgenerate, congrArg Entity.name hentity, hall,
    Counter.fieldNames _ _, hentity ▸ Counter.keepsMemberTypes _ _,
    hentity ▸ List.mem_singleton_self _, hmade, hreflected, hclass ▸ hname, ?_⟩
  intro hagree
  have hrefused : m₂.conforms (.object 0) "[I" = false := by
    rw [Machine.conforms, Value.conformsTo.eq_def]
    rfl
  have hget := (hholds.same hkept).get_refuses hrefused
  have hinstance : m₂.isInstance 0 entity.name = true := by
    rw [Machine.isInstance, hclass]
    exact entity.isSubclassOf_self
  cases hbound with
  | method haccess => cases haccess
  | @field slot field _ _ _ hfield _ hbinds =>
    have hvalue : (m₂.object 0).fields[slot]? = some field.initial := by
      rw [hobject, LoadedClass.initialFields, List.getElem?_map, hfield, Option.map_some]
    have hread : (Run.handleGet get 0).on m₂ = (.ok field.initial, m₂) :=
      handleGetWith_on hbinds.target (hbinds.className ▸ hinstance) hvalue
    have hsame := hagree.get.1
    rw [hget] at hsame
    have hbad := hsame.trans (congrArg (fun x => x.1.mapError Failure.category) hread)
    cases hbad

end Generator

end EntityForge
