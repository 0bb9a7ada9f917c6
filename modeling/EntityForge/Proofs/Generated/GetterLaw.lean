import EntityForge.Proofs.Generated.GetterCalls

/-!
The law of getters and setters. Whether the property of a getter can be written, what its setter is
called and which field the two share are three readings of one name; they agree, so the accessor of
the property refuses every write or writes through.
-/

namespace EntityForge

open Run

namespace Generator

section Passes

variable {g : Generator} {r r' : ClassRegistry} {c : ClassMeta} {generated : GeneratedEntity}
  {bodies : List ClassBody} {body : ClassBody} {entity : LoadedClass}
  {accessorClass : Property → LoadedClass} {inherited own : List FieldSlot} {m : Machine}
  {object : Nat} {p : Property} {getter w : MethodMeta} {setter : Option MethodRef} {x : String}

/-- The class of an accessor is not the class of the entity. -/
theorem Loads.accessor_ne {e : Entity} (h : g.Loads r c e entity accessorClass inherited own)
    (hp : p ∈ e.properties) : accessorClass p ≠ entity := by
  intro hsame
  have hkinds := congrArg (fun loaded => loaded.body.kind) hsame
  rw [(h.accessors p hp).2.body, h.body] at hkinds
  unfold GenerationMode.entityBody Backend.accessorBody at hkinds
  split at hkinds <;> split at hkinds <;> cases hkinds

/-- An object whose class has the name of the entity is one of the class that the pass made. -/
theorem Loads.class_eq {e : Entity} (h : g.Loads r c e entity accessorClass inherited own)
    (hm : m.HeapTyped) (hlater : r.Later m.registry) (hid : object < m.heap.size)
    (hname : (m.classOf object).name = e.name) : m.classOf object = entity := by
  have hlinks : m.registry.Links (m.classOf object).name (m.classOf object) :=
    ⟨0, .cached (hm.type object hid)⟩
  exact (hname ▸ hlinks).unique (hlater.links_iff.mpr h.links)

/-- The property of a getter has the setter of the getter's name and type, if there is one. -/
theorem Installs.setter_eq (h : g.Installs r r' c generated bodies body)
    (hmethods : (c.methods.map fun m => (m.name, m.descriptor)).Nodup)
    (hp : p ∈ generated.entity.properties) (hgetter : getter ∈ c.methods)
    (haccess : p.access = .method ⟨getter.name, getter.descriptor⟩ setter)
    (hanswers : getter.descriptor = "()" ++ p.type.erasedDescriptor) (hname : getter.IsGetterOf x)
    (hascii : ∀ letter ∈ getter.name.toList, letter.toNat < 128) :
    getter.has AccessFlag.isStatic = false ∧ p.name = BeanName.decapitalize x ∧
      BeanName.capitalize p.name = x ∧ setter = c.setter? p.name p.type.erasedDescriptor := by
  have hmethod : p.access.isField = false := by
    rw [haccess]
    rfl
  obtain ⟨declared, hread⟩ := Entity.ofClass_readBy h.makes.described p hp hmethod
  obtain ⟨href, rfl⟩ := PropertyAccess.method.inj (haccess.symm.trans hread.access)
  obtain ⟨hsameName, hsameDescriptor⟩ := MethodRef.mk.inj href
  obtain rfl : getter = declared := List.inj_on_of_nodup_map hmethods hgetter hread.member
    (Prod.ext hsameName hsameDescriptor)
  have hreturned : getter.returned = p.type.erasedDescriptor :=
    (String.append_right_inj "()").mp
      ((Property.getter_descriptor hread.name).symm.trans hanswers)
  obtain ⟨hproperty, hcapital⟩ := hname.property hascii hread.name
  exact ⟨hread.nonstatic, hproperty, hcapital, hreturned ▸ rfl⟩

/-- A property that has a declared setter is read and written by the two methods. -/
theorem Installs.pairedIn (h : g.Installs r r' c generated bodies body) (hmode : g.mode = .runtime)
    (hlinks : r'.Links generated.entity.name entity)
    (hmethods : (c.methods.map fun m => (m.name, m.descriptor)).Nodup)
    (hp : p ∈ generated.entity.properties) (hgetter : getter ∈ c.methods)
    (haccess : p.access = .method ⟨getter.name, getter.descriptor⟩ setter)
    (hanswers : getter.descriptor = "()" ++ p.type.erasedDescriptor) (hname : getter.IsGetterOf x)
    (hsetter : setter = c.setter? p.name p.type.erasedDescriptor)
    (hcapital : BeanName.capitalize p.name = x)
    (hw : c.DeclaresSetter x p.type.erasedDescriptor w) : p.PairedIn c entity x getter w := by
  have hfronts : entity.Fronts c.compiled := by
    have hbody := (h.fronts_entity (h.describes.name ▸ hlinks)).1
    rwa [hmode] at hbody
  subst hcapital
  obtain ⟨ref, href⟩ := Option.isSome_iff_exists.mp (ClassMeta.setter?_isSome_iff.mpr ⟨w, hw⟩)
  obtain ⟨w', hw', rfl⟩ := ClassMeta.setter?_eq_some href
  refine ⟨hmethods, hfronts, h.describes.denotable p hp, ?_, hgetter, hname, hanswers, hw⟩
  rw [haccess, hsetter, href, hw'.name, hw'.descriptor, hw.name, hw.descriptor]

/-- The setter of a property writes the field that its getter reads, which has a slot of the type of
the property, or it has no role. -/
theorem Loads.role_cases {e : Entity} (h : g.Loads r c e entity accessorClass inherited own)
    (hpaired : p.PairedIn c entity x getter w)
    (hnonstatic : getter.has AccessFlag.isStatic = false)
    (habstract : getter.has AccessFlag.isAbstract = false)
    (hproperty : p.name = BeanName.decapitalize x) :
    c.role? w = none ∨
      ∃ f slot, c.Shares getter w f ∧ f.name = p.name ∧ p.Fronted entity slot := by
  obtain hnone | ⟨f, hshares, hfield, hdescriptor⟩ :=
    hpaired.setter.shares hnonstatic habstract hpaired.name hpaired.answers
  · exact .inl hnone
  · have hname : f.name = p.name := hfield.trans hproperty.symm
    obtain ⟨i, field, hbacked, _⟩ := h.backed_by hpaired.denotable hshares.member
      hshares.nonstatic hname hdescriptor.symm
    exact .inr ⟨f, _, hshares, hname, h.layout.fronted hbacked⟩

end Passes

end Generator

/-! A class with one property, which is read by a getter. -/

namespace Gauge

def getter : MethodMeta where
  name := "getA"
  descriptor := "()I"
  annotations := [.ofType AnnotationNames.property]

def setter : MethodMeta where
  name := "setA"
  descriptor := "(I)V"

/-- The class, under any name, with the setter or without it. -/
def classMeta (name : String) (writable : Bool) : ClassMeta where
  name
  fields := [Counter.field]
  methods := getter :: if writable then [setter] else []

def access (writable : Bool) : PropertyAccess :=
  .method ⟨"getA", "()I"⟩ (if writable then some ⟨"setA", "(I)V"⟩ else none)

def property (writable : Bool) : Property :=
  .describe .annotated "a" (.ofPrimitive .int) (access writable) getter.annotations !writable

def entity (name : String) (writable : Bool) : Entity where
  name
  simpleName := Qualified.simpleName name
  package := Qualified.packageName name
  properties := [property writable]
  annotations := []
  isAbstract := false
  isInterface := false
  policy := {}

private theorem ofGetter_ok (name : String) (writable : Bool) :
    Property.ofGetter .annotated (classMeta name writable) getter = .ok (property writable) := by
  have hname : getter.getterProperty? = some "a" := by decide +kernel
  have hparse : MethodType.parse getter.typeSignature = .ok ⟨[], some (.ofPrimitive .int)⟩ :=
    MethodType.parse_answering (t := .ofPrimitive .int) (by decide)
  have hsetter : (classMeta name writable).setter? "a" getter.returned =
      if writable then some ⟨"setA", "(I)V"⟩ else none := by
    have hreturned : getter.returned = "I" := by decide +kernel
    have hcapital : BeanName.capitalize "a" = "A" := by decide +kernel
    unfold ClassMeta.setter?
    rw [hreturned, hcapital]
    cases writable <;> rfl
  unfold Property.ofGetter
  rw [hname]
  dsimp only
  rw [hparse, hsetter]
  cases writable <;> rfl

private theorem discover_ok (name : String) (writable : Bool) :
    Entity.discover .annotated (classMeta name writable) = .ok (entity name writable) := by
  have hfields : ((classMeta name writable).fields.filter MappingConfig.annotated.admitsField).mapM
      (Property.ofField .annotated name) = .ok [] := rfl
  have hadmitted : (classMeta name writable).methods.filter MappingConfig.annotated.admitsMethod =
      [getter] := by
    have hgetter : MappingConfig.annotated.admitsMethod getter = true := by decide +kernel
    have hsetter : MappingConfig.annotated.admitsMethod setter = false := by decide +kernel
    cases writable <;> simp [classMeta, hgetter, hsetter]
  have hgetters : ((classMeta name writable).methods.filter
      MappingConfig.annotated.admitsMethod).foldlM
        (Entity.addGetter .annotated (classMeta name writable)) [] = .ok [property writable] := by
    rw [hadmitted, List.foldlM_cons, Entity.addGetter, ofGetter_ok]
    rfl
  have habstract : AccessFlag.within AccessFlag.isAbstract AccessFlag.isPublic = false := rfl
  have hinterface : AccessFlag.within AccessFlag.isInterface AccessFlag.isPublic = false := rfl
  refine Checked.bind_eq_ok.mpr ⟨_, hfields, Checked.bind_eq_ok.mpr ⟨_, hgetters, ?_⟩⟩
  unfold entity ClassMeta.isAbstract ClassMeta.isInterface
  simp only [classMeta, habstract, hinterface]
  rfl

def propertyModel (name : String) (writable : Bool) : ClassBody :=
  let className := (property writable).modelName name
  (property writable).modelBodyOf name
    [Code.loadThis, .newList 0, .putField className annotationsField, Code.loadThis,
      .annotationBegin AnnotationNames.property, .annotationEnd] [.newList 0]
    [.newType (.primitive .int) "int" .exact 0 0]

def entityModel (name : String) (writable : Bool) : ClassBody :=
  (entity name writable).modelBodyOf
    [Code.loadThis, .newList 0, .putField (entity name writable).modelName annotationsField]
    [.newType .classType name .exact 0 0]

abbrev Checks (name : String) (writable : Bool) : Prop :=
  GenerationMode.runtime.Checks (classMeta name writable) (entity name writable)
    [propertyModel name writable] (entityModel name writable)

private theorem completes {name : String} {writable : Bool} (h : Checks name writable) :
    (Generator.mk .annotated .runtime).Completes .builtin (classMeta name writable)
      (entity name writable) [propertyModel name writable] (entityModel name writable) where
  described := Checked.bind_eq_ok.mpr ⟨_, discover_ok name writable, by cases writable <;> rfl⟩
  accessible := nofun
  models := by cases writable <;> rfl
  model := by cases writable <;> rfl
  limited := h.limited

/-- The accessor of the property, made after an object of the class. -/
private theorem accessor_exists {name : String} {writable : Bool} (h : Checks name writable) :
    ∃ generated r' bodies body loaded accessorClass inherited own m₁ get set,
      (Generator.mk .annotated .runtime).generate {} (classMeta name writable) =
        .ok (generated, r') ∧
      generated.entity = entity name writable ∧
      ClassRegistry.DigestsSeparate [] generated.records ∧ r'.AllLoad r'.names ∧
      (Generator.mk .annotated .runtime).Installs {} r' (classMeta name writable) generated bodies
        body ∧
      (Generator.mk .annotated .runtime).Loads r' (classMeta name writable)
        (entity name writable) loaded accessorClass inherited own ∧
      (Accessor.ofClass (GeneratedName.accessor name "a")).on (Counter.machine r' name) =
        (.ok (.generated 1), m₁) ∧
      0 < m₁.heap.size ∧ m₁.object 0 = ⟨loaded, loaded.initialFields⟩ ∧ loaded.name = name ∧
      (property writable).Bound loaded get set ∧
      (⟨name, property writable⟩ : AccessorShape).Holds get set m₁ 1 := by
  obtain ⟨generated, r', hgenerate, hentity, hdigests, _, _, hall⟩ :=
    (completes h).loads_new h (fun _ hf => List.mem_singleton.mp hf ▸ rfl) rfl
  obtain ⟨bodies, body, hinstalls⟩ :=
    Generator.generate_installs (.new .builtin) hdigests hgenerate
  obtain ⟨loaded, accessorClass, inherited, own, hloads⟩ :=
    hinstalls.loads (hall.mono (Generator.generate_names hgenerate)) (List.nodup_singleton _)
  have hp : property writable ∈ generated.entity.properties :=
    hentity ▸ List.mem_singleton_self _
  have hoffered := hinstalls.offered_method hloads.links hp rfl rfl
  obtain ⟨m, hnew, hgrows, hsize, hobject⟩ :=
    hloads.instantiate_on (m := { registry := r' }) (.refl r')
  obtain ⟨m₁, get, set, hmade, hgrows₁, hstands, hbound, hholds⟩ :=
    hloads.make_accessor rfl hoffered hp hgrows.registry
  have hname : loaded.name = generated.entity.name := hloads.name hinstalls.describes.name
  have hone : m.heap.size = 1 := hsize
  have hmachine : Counter.machine r' name = m := by
    rw [Counter.machine, Machine.after, show name = generated.entity.name from hentity ▸ rfl]
    exact congrArg Prod.snd hnew
  rw [hone] at hmade hholds
  rw [hentity] at hloads hmade hholds hname
  refine ⟨generated, r', bodies, body, loaded, accessorClass, inherited, own, m₁, get, set,
    hgenerate, hentity, hdigests, hall, hinstalls, hloads, hmachine ▸ hmade, ?_, ?_, hname, hbound,
    hholds⟩
  · have := hgrows₁.size
    omega
  · rw [hgrows₁.object 0 (by omega)]
    exact hobject

end Gauge
namespace Generator

/-- The law of getters and setters, where the entity stays as it is declared, all its classes load,
no two fields have one name and no two methods have one name and descriptor. A property that is read
by a getter whose name is in ASCII and that has the type which the getter returns has a setter
exactly if the class declares one of the getter's name and type. The accessor of the property is
made after whatever calls; from then on, after whatever further calls that leave the accessor alone,
it refuses every write on every object of the entity if there is no setter, and writes through if
there is one. Objects of an entity whose name is an array descriptor pass no check of their class,
so such names are left out. -/
theorem getter_law {g : Generator} {r r' : ClassRegistry} {c : ClassMeta}
    {generated : GeneratedEntity} (hreachable : r.Reachable)
    (hdigests : ClassRegistry.DigestsSeparate r.records generated.records)
    (hgenerate : g.generate r c = .ok (generated, r')) (hmode : g.mode = .runtime)
    (hall : r'.AllLoad generated.classNames) (hfields : (c.fields.map (·.name)).Nodup)
    (hmethods : (c.methods.map fun m => (m.name, m.descriptor)).Nodup)
    (hclassName : generated.name.toList.head? ≠ some '[')
    (before : List MachineCall) {p : Property} (hp : p ∈ generated.entity.properties)
    {getter : MethodMeta} (hgetter : getter ∈ c.methods)
    (habstract : getter.has AccessFlag.isAbstract = false)
    {setter : Option MethodRef}
    (haccess : p.access = .method ⟨getter.name, getter.descriptor⟩ setter)
    (hanswers : getter.descriptor = "()" ++ p.type.erasedDescriptor)
    {x : String} (hname : getter.IsGetterOf x)
    (hascii : ∀ letter ∈ getter.name.toList, letter.toNat < 128) :
    (setter.isSome = true ↔ ∃ w, c.DeclaresSetter x p.type.erasedDescriptor w) ∧
    ∃ self m₁,
      (Accessor.ofClass (GeneratedName.accessor generated.name p.name)).on
        (({ registry := r' } : Machine).after before) = (.ok (.generated self), m₁) ∧
      ∀ later, (m₁.after later).object self = m₁.object self →
        ∀ object < (m₁.after later).heap.size,
          ((m₁.after later).classOf object).name = generated.name →
          (setter = none →
            (Accessor.generated self).RefusesWrites generated.name p.name (m₁.after later) object) ∧
          ∀ w, c.DeclaresSetter x p.type.erasedDescriptor w →
            (Accessor.generated self).WritesThrough c getter w (m₁.after later) object := by
  obtain ⟨bodies, body, hinstalls⟩ := generate_installs hreachable hdigests hgenerate
  obtain ⟨entity, accessorClass, inherited, own, hloads⟩ := hinstalls.loads hall hfields
  obtain ⟨hnonstatic, hproperty, hcapital, hsetter⟩ :=
    hinstalls.setter_eq hmethods hp hgetter haccess hanswers hname hascii
  constructor
  · rw [hsetter, ClassMeta.setter?_isSome_iff, hcapital]
  have hbefore := Machine.after_evolves { registry := r' } before
  have hoffered := hinstalls.offered_method hloads.links hp haccess hanswers
  obtain ⟨m₁, get, set, hmade, _, hstands, hbound, hholds⟩ :=
    hloads.make_accessor hmode hoffered hp hbefore.later
  refine ⟨_, m₁, hmade, ?_⟩
  intro later hkept object hid hobject
  have hevolves : ({ registry := r' } : Machine).Evolves (m₁.after later) := by
    have hmakes := Accessor.ofClass_acting (GeneratedName.accessor generated.entity.name p.name)
      (({ registry := r' } : Machine).after before)
    rw [hmade] at hmakes
    exact (hbefore.trans hmakes).trans (Machine.after_evolves m₁ later)
  have hreachable' : r'.Reachable := generate_reachable hreachable hgenerate
  have htyped : (m₁.after later).HeapTyped :=
    (Machine.heap_typed hreachable' []).1.evolves hevolves
  have hclass : (m₁.after later).classOf object = entity :=
    hloads.class_eq htyped hevolves.later hid hobject
  have hadmits := Machine.conforms_own hclassName hobject
  have hkeeps := hholds.same hkept
  constructor
  · rintro rfl v
    have hreadOnly : p.access.isReadOnly = true := by
      rw [haccess]
      rfl
    obtain rfl := Option.isNone_iff_eq_none.mp (hbound.isReadOnly.symm.trans hreadOnly)
    exact hkeeps.set_readOnly hreadOnly hadmits
  · intro w hw
    have hpaired := hinstalls.pairedIn hmode hloads.links hmethods hp hgetter haccess hanswers
      hname hsetter hcapital hw
    obtain ⟨_, write, rfl, _⟩ := hpaired.calls hbound
    apply hpaired.writesThrough hclass hkeeps hbound hadmits
    · -- The accessor is no object of the entity: the two classes are of different kinds.
      rintro rfl
      have hself := (congrArg Instance.type hkept).symm.trans hclass
      exact hloads.accessor_ne hp (hstands.type.symm.trans hself)
    · exact hid
    · rw [(htyped.fields object hid).length_eq, hclass]
    · exact hloads.role_cases hpaired hnonstatic habstract hproperty

/-- A value that is written through the setter of a class is read back through its getter. -/
theorem getter_law_gauge :
    ∃ generated r' self m₁ m₂,
      (Generator.mk .annotated .runtime).generate {} (Gauge.classMeta "app.Gauge" true) =
        .ok (generated, r') ∧
      (Accessor.ofClass (GeneratedName.accessor "app.Gauge" "a")).on
        (Counter.machine r' "app.Gauge") = (.ok (.generated self), m₁) ∧
      ((Accessor.generated self).set 0 (.int 5)).on m₁ = (.ok (), m₂) ∧
      ((Accessor.generated self).get 0).on m₂ = (.ok (.int 5), m₂) := by
  have hchecks : Gauge.Checks "app.Gauge" true := by decide +kernel
  obtain ⟨generated, r', bodies, body, entity, _, _, _, m₁, get, set, hgenerate, hentity, hdigests,
    hall, hinstalls, hloads, hmade, hsize, hobject, hname, hbound, hholds⟩ :=
    Gauge.accessor_exists hchecks
  have hgenerated : generated.name = "app.Gauge" := congrArg Entity.name hentity
  have hp : Gauge.property true ∈ generated.entity.properties :=
    hentity ▸ List.mem_singleton_self _
  have hmethods : ((Gauge.classMeta "app.Gauge" true).methods.map fun m =>
      (m.name, m.descriptor)).Nodup := by decide
  have hgetter : Gauge.getter ∈ (Gauge.classMeta "app.Gauge" true).methods := List.mem_cons_self
  have hsetter : (Gauge.classMeta "app.Gauge" true).DeclaresSetter "A" "I" Gauge.setter :=
    ⟨List.mem_cons_of_mem _ List.mem_cons_self, by decide, by decide, by decide⟩
  have hascii : ∀ letter ∈ Gauge.getter.name.toList, letter.toNat < 128 := by simp [Gauge.getter]
  obtain ⟨-, self, m, hmade', hlaw⟩ := getter_law (x := "A") (.new .builtin) hdigests hgenerate
    rfl (hall.mono (generate_names hgenerate)) (List.nodup_singleton _) hmethods
    (by rw [hgenerated]; decide)
    [.instantiate "app.Gauge" Construction.plain []] hp hgetter (by decide) rfl rfl
    (.inl (by decide)) hascii
  rw [hgenerated] at hmade' hlaw
  cases hmade.symm.trans hmade'
  have hclass : m₁.classOf 0 = entity := congrArg Instance.type hobject
  have hpaired : (Gauge.property true).PairedIn (Gauge.classMeta "app.Gauge" true) entity "A"
      Gauge.getter Gauge.setter :=
    hinstalls.pairedIn rfl (hentity ▸ hloads.links) hmethods hp hgetter rfl rfl (.inl (by decide))
      (by decide +kernel) (by decide +kernel) hsetter
  obtain ⟨_, write, rfl, hset⟩ := hpaired.calls hbound
  obtain hnone | ⟨f, slot, hshares, hfield, hfront⟩ :=
    hloads.role_cases hpaired (by decide) (by decide) (by decide +kernel)
  · have hrole : ((Gauge.classMeta "app.Gauge" true).role? Gauge.setter).isSome = true := by
      decide +kernel
    rw [hnone] at hrole
    cases hrole
  · have hroom : slot < (m₁.object 0).fields.length := by
      obtain ⟨field, hplace, _⟩ := hfront.field
      rw [hobject, LoadedClass.initialFields, List.length_map]
      exact (List.getElem?_eq_some_iff.mp hplace).1
    have hadmits := Machine.conforms_own (by decide) (hclass ▸ hname)
    have hwritten := hpaired.set_on hclass hholds hadmits hset hshares.writes hfield hfront hroom
      (.int 5)
    have hfits : m₁.fits (.int 5) (Gauge.property true).type = true := rfl
    rw [if_pos hfits] at hwritten
    obtain ⟨_, hthrough⟩ := hlaw [] rfl 0 hsize (hclass ▸ hname)
    obtain ⟨_, _, _, _, _, hread⟩ := (hthrough Gauge.setter hsetter).stored _ _ hwritten
    exact ⟨generated, r', 1, m₁, _, hgenerate, hmade, hwritten, hread⟩

/-- Objects of an entity that is named like an array do not pass the check of their own class, so a
write without a setter fails for that and not for want of a setter. -/
theorem getter_law_arrayName :
    ∃ generated r' accessor m₁ failure,
      (Generator.mk .annotated .runtime).generate {} (Gauge.classMeta "[I" false) =
        .ok (generated, r') ∧
      MappingConfig.annotated.isAnnotatedMode = true ∧ generated.name = "[I" ∧ r'.AllLoad r'.names ∧
      (Gauge.classMeta "[I" false).fields.map (·.name) = ["a"] ∧
      (Gauge.classMeta "[I" false).methods = [Gauge.getter] ∧
      Gauge.getter.has AccessFlag.isAbstract = false ∧ Gauge.getter.IsGetterOf "A" ∧
      Gauge.property false ∈ generated.entity.properties ∧
      (Gauge.property false).access =
        .method ⟨Gauge.getter.name, Gauge.getter.descriptor⟩ none ∧
      Gauge.getter.descriptor = "()" ++ (Gauge.property false).type.erasedDescriptor ∧
      (Accessor.ofClass (GeneratedName.accessor "[I" "a")).on (Counter.machine r' "[I") =
        (.ok accessor, m₁) ∧
      0 < m₁.heap.size ∧ (m₁.classOf 0).name = generated.name ∧
      (accessor.set 0 (.int 5)).on m₁ = (.error failure, m₁) ∧ failure.category ≠ .readOnly := by
  have hchecks : Gauge.Checks "[I" false := by decide +kernel
  obtain ⟨generated, r', _, _, entity, _, _, _, m₁, get, set, hgenerate, hentity, _, hall, _, _,
    hmade, hsize, hobject, hname, _, hholds⟩ := Gauge.accessor_exists hchecks
  have hgenerated : generated.name = "[I" := congrArg Entity.name hentity
  have hclass : (m₁.classOf 0).name = generated.name := by
    rw [Machine.classOf_object, hobject, hgenerated]
    exact hname
  have hrefused : m₁.conforms (.object 0) "[I" = false := by
    rw [Machine.conforms, Value.conformsTo.eq_def]
    rfl
  have hcategory : (Failure.cannotCast "object" "[I").category ≠ .readOnly := by decide
  exact ⟨generated, r', _, m₁, _, hgenerate, by decide, hgenerated, hall, rfl, rfl,
    by decide, .inl (by decide), hentity ▸ List.mem_singleton_self _, rfl, rfl, hmade, hsize,
    hclass, hholds.set_refuses hrefused, hcategory⟩

end Generator

end EntityForge
