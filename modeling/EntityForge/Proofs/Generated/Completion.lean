import EntityForge.Proofs.Class.Limits
import EntityForge.Proofs.Entity.Validation
import EntityForge.Proofs.Generated.Loading

/-!
When a pass completes. It does if the class describes an entity whose members the mode can reach,
if the models can be written down, and if all classes are within the limits of the format; where the
names of the classes are new, they are registered, and no digest has to tell anything apart.
-/

namespace EntityForge

theorem ClassBody.record_ok {b : ClassBody} (h : b.Limited) : ∃ record, b.record = .ok record := by
  obtain ⟨bytes, hbytes⟩ := encode_of_limited h
  exact ⟨.ofBytes b.name bytes, by rw [record, ClassRecord.ofBody, hbytes]; rfl⟩

theorem Backend.accessorClass_ok (backend : Backend) (e : Entity) {p : Property}
    (haccess : backend.needsAugmentation = true → p.access.isField = true)
    (h : (backend.accessorBody ⟨e.name, p⟩).Limited) :
    ∃ record, backend.accessorClass e p = .ok record := by
  have hguard : ¬ (backend.needsAugmentation && !p.access.isField) = true := by
    rw [Bool.and_eq_true]
    rintro ⟨hcalls, hmethod⟩
    rw [haccess hcalls] at hmethod
    cases hmethod
  unfold accessorClass
  dsimp only
  rw [if_neg hguard]
  cases backend with
  | direct =>
    obtain ⟨bytes, hbytes⟩ := ClassBody.encode_of_limited h
    have hbytes : (AccessorShape.callingBody ⟨e.name, p⟩).image.toBytes = .ok bytes := hbytes
    dsimp only
    rw [AccessorShape.directImage_eq, hbytes]
    exact ⟨_, rfl⟩
  | builder => exact ClassBody.record_ok h
  | resolved => exact ClassBody.record_ok h

namespace Generator

variable {g : Generator} {annotations : AnnotationRegistry} {c : ClassMeta} {e : Entity}
  {bodies : List ClassBody} {body : ClassBody}

theorem entityClass_ok
    (haccess : g.mode.augmentsEntity = true → ∀ p ∈ e.properties, p.access.isField = true)
    (h : (g.mode.entityBody c e).Limited) : ∃ record, g.entityClass c e = .ok record := by
  unfold GenerationMode.entityBody at h
  unfold entityClass
  dsimp only
  cases haugments : g.mode.augmentsEntity with
  | true =>
    rw [if_pos haugments] at h
    have hnone : (e.properties.find? fun p => !p.access.isField) = none := by
      rw [List.find?_eq_none]
      intro p hp
      simp [haccess haugments p hp]
    rw [if_pos rfl, ClassMeta.augmented, hnone]
    exact ClassBody.record_ok h
  | false =>
    rw [if_neg (by simp [haugments])] at h
    exact ClassBody.record_ok h

/-- All that a pass over a class needs, given the bodies of the models. -/
structure Completes (g : Generator) (annotations : AnnotationRegistry) (c : ClassMeta) (e : Entity)
    (bodies : List ClassBody) (body : ClassBody) : Prop where
  described : Entity.ofClass g.config c = .ok e
  accessible : g.mode.augmentsEntity = true → ∀ p ∈ e.properties, p.access.isField = true
  models : e.properties.mapM (Property.modelBody annotations e.name) = .ok bodies
  model : e.modelBody annotations = .ok body
  limited : ∀ b ∈ g.mode.bodies c e bodies body, b.Limited

/-- The bodies of the models are determined by the entity. -/
theorem Completes.determines {generated : GeneratedEntity} {bodies' : List ClassBody}
    {body' : ClassBody} (h : g.Completes annotations c generated.entity bodies body)
    (hmakes : g.Makes annotations c generated bodies' body') : bodies' = bodies ∧ body' = body :=
  ⟨Except.ok.inj ((Checked.mapM_eq_ok.mpr hmakes.models).symm.trans h.models),
    Except.ok.inj (hmakes.model.symm.trans h.model)⟩

/-- What a pass needs is enough for it to plan all classes. -/
theorem Completes.plan_ok (h : g.Completes annotations c e bodies body) :
    ∃ generated, g.plan annotations c = .ok generated ∧ generated.entity = e ∧
      g.Makes annotations c generated bodies body := by
  have hlimited := h.limited
  simp only [GenerationMode.bodies, List.mem_append, List.mem_cons, List.mem_map,
    List.not_mem_nil, or_false] at hlimited
  have hneeds : g.mode.backend.needsAugmentation = true → g.mode.augmentsEntity = true := by
    cases g.mode with
    | runtime =>
      intro hcalls
      cases hcalls
    | selfContained backend => exact fun _ => rfl
  obtain ⟨entityRecord, hentity⟩ := entityClass_ok h.accessible (hlimited _ (.inl (.inl (.inl rfl))))
  obtain ⟨accessors, haccessors⟩ := Checked.mapM_ok fun p hp =>
    Backend.accessorClass_ok g.mode.backend e
      (fun hcalls => h.accessible (hneeds hcalls) p hp)
      (hlimited _ (.inl (.inl (.inr ⟨p, hp, rfl⟩))))
  obtain ⟨models, hmodels⟩ : ∃ models,
      e.properties.mapM (Property.modelClass annotations e.name) = .ok models := by
    refine Checked.mapM_ok fun p hp => ?_
    obtain ⟨b, hb, hbody⟩ := Checked.forall₂_mem_left (Checked.mapM_eq_ok.mp h.models) hp
    obtain ⟨record, hrecord⟩ := ClassBody.record_ok (hlimited b (.inl (.inr hb)))
    exact ⟨record, Checked.bind_eq_ok.mpr ⟨b, hbody, hrecord⟩⟩
  obtain ⟨model, hmodel⟩ := ClassBody.record_ok (hlimited body (.inr rfl))
  have hmodel : e.modelClass annotations = .ok model :=
    Checked.bind_eq_ok.mpr ⟨body, h.model, hmodel⟩
  have hplan : ∃ generated, g.plan annotations c = .ok generated ∧ generated.entity = e := by
    unfold plan describe
    rw [h.described]
    simp only [bind, Except.bind, hentity, haccessors, hmodels, hmodel]
    exact ⟨_, rfl, rfl⟩
  obtain ⟨generated, hplan, rfl⟩ := hplan
  obtain ⟨bodies', body', hmakes⟩ := plan_makes hplan
  obtain ⟨rfl, rfl⟩ := h.determines hmakes
  exact ⟨generated, hplan, rfl, hmakes⟩

/-- What a pass needs is enough for it to complete where the names of its classes are new. -/
theorem Completes.generate_ok {r : ClassRegistry} (hreach : r.Reachable)
    (h : g.Completes r.annotations c e bodies body)
    (hnames : ((g.mode.bodies c e bodies body).map (·.name)).Nodup)
    (hnew : ∀ b ∈ g.mode.bodies c e bodies body, r.records.get? b.name = none) :
    ∃ generated r', g.generate r c = .ok (generated, r') ∧ generated.entity = e ∧
      ClassRegistry.DigestsSeparate r.records generated.records ∧
      g.Installs r r' c generated bodies body := by
  obtain ⟨generated, hplan, rfl, hmakes⟩ := h.plan_ok
  have hrecordNames : generated.records.map (·.name) =
      (g.mode.bodies c generated.entity bodies body).map (·.name) := by
    rw [← List.forall₂_eq_eq_eq, List.forall₂_map_left_iff, List.forall₂_map_right_iff]
    exact hmakes.records.imp fun _ _ hencodes => hencodes.name
  rw [← hrecordNames] at hnames
  have hnewRecords : ∀ record ∈ generated.records, r.records.get? record.name = none := by
    intro record hrecord
    obtain ⟨b, hb, hencodes⟩ := Checked.forall₂_mem_left hmakes.records hrecord
    rw [hencodes.name]
    exact hnew b hb
  have hdigests := ClassRegistry.digestsSeparate_new hnames hnewRecords
  obtain ⟨outcomes, r', hregister⟩ := ClassRegistry.registerAll_new hnames hnewRecords
  have hgenerate : g.generate r c = .ok (generated, r') :=
    generate_ok_iff.mpr ⟨hplan, outcomes, hregister⟩
  obtain ⟨bodies', body', hinstalls⟩ := generate_installs hreach hdigests hgenerate
  obtain ⟨rfl, rfl⟩ := h.determines hinstalls.makes
  exact ⟨generated, r', hgenerate, rfl, hdigests, hinstalls⟩

end Generator

/-- What decides whether the classes of a pass can be registered where nothing is registered yet,
and whether they are well-formed. -/
structure GenerationMode.Checks (mode : GenerationMode) (c : ClassMeta) (e : Entity)
    (bodies : List ClassBody) (body : ClassBody) : Prop where
  limited : ∀ b ∈ mode.bodies c e bodies body, b.Limited
  names : ((mode.bodies c e bodies body).map (·.name)).Nodup
  object : ClassName.object ∉ (mode.bodies c e bodies body).map (·.name)
  wellFormed : (mode.entityBody c e).WellFormed
  casts : (Instruction.checkCast e.name).WellFormed

instance (mode : GenerationMode) (c : ClassMeta) (e : Entity) (bodies : List ClassBody)
    (body : ClassBody) : Decidable (mode.Checks c e bodies body) :=
  decidable_of_iff
    ((∀ b ∈ mode.bodies c e bodies body, b.Limited) ∧
      ((mode.bodies c e bodies body).map (·.name)).Nodup ∧
      ClassName.object ∉ (mode.bodies c e bodies body).map (·.name) ∧
      (mode.entityBody c e).WellFormed ∧ (Instruction.checkCast e.name).WellFormed)
    ⟨fun ⟨h₁, h₂, h₃, h₄, h₅⟩ => ⟨h₁, h₂, h₃, h₄, h₅⟩,
     fun h => ⟨h.limited, h.names, h.object, h.wellFormed, h.casts⟩⟩

namespace Generator

variable {g : Generator} {c : ClassMeta} {e : Entity} {bodies : List ClassBody} {body : ClassBody}

/-- A pass over a class completes where nothing is registered yet, and leaves the class of all
objects to the outside. -/
theorem Completes.generates_new (h : g.Completes .builtin c e bodies body)
    (hchecks : g.mode.Checks c e bodies body) :
    ∃ generated r', g.generate {} c = .ok (generated, r') ∧ generated.entity = e ∧
      ClassRegistry.DigestsSeparate [] generated.records ∧
      r'.contains ClassName.object = false ∧ g.Installs {} r' c generated bodies body := by
  obtain ⟨generated, r', hgenerate, hentity, hdigests, hinstalls⟩ :=
    h.generate_ok (.new .builtin) hchecks.names fun _ _ => rfl
  refine ⟨generated, r', hgenerate, hentity, hdigests, ?_, hinstalls⟩
  cases hregistered : r'.contains ClassName.object with
  | false => rfl
  | true =>
    obtain ⟨b, hb, hname⟩ := hinstalls.made rfl hregistered
    rw [hentity] at hb
    exact absurd (hname ▸ List.mem_map_of_mem hb) hchecks.object

/-- Where the class extends none of the others and has no initial values, all classes load. -/
theorem Completes.loads_new (h : g.Completes .builtin c e bodies body)
    (hchecks : g.mode.Checks c e bodies body) (hinitial : ∀ f ∈ c.fields, f.constant = none)
    (hsuper : c.superName = none) :
    ∃ generated r', g.generate {} c = .ok (generated, r') ∧ generated.entity = e ∧
      ClassRegistry.DigestsSeparate [] generated.records ∧
      r'.contains ClassName.object = false ∧ (∃ loaded, (r'.load c.name).1 = .ok loaded) ∧
      r'.AllLoad r'.names := by
  obtain ⟨generated, r', hgenerate, hentity, hdigests, hobject, hinstalls⟩ :=
    h.generates_new hchecks
  have halone : (g.mode.entityBody c e).StandsAlone := by
    refine ⟨hchecks.wellFormed, ?_, ?_⟩
    · rw [GenerationMode.entityBody_fields]
      intro f hf
      obtain ⟨declared, hdeclared, rfl⟩ := List.mem_map.mp hf
      exact hinitial declared hdeclared
    · rw [GenerationMode.entityBody_superName, ClassMeta.compiled, hsuper]
      rfl
  rw [← hentity] at halone
  obtain ⟨loaded, hlinks, _⟩ := hinstalls.links_made hobject List.mem_cons_self halone
  rw [GenerationMode.entityBody_name] at hlinks
  refine ⟨generated, r', hgenerate, hentity, hdigests, hobject,
    ⟨loaded, ClassRegistry.load_ok_iff.mpr hlinks⟩,
    hinstalls.allLoad (fun _ => rfl) hobject ?_ hlinks⟩
  rw [hentity]
  exact hchecks.casts

/-- Whether a pass over a class completes where nothing is registered yet. -/
def completes? (g : Generator) (c : ClassMeta) : Bool :=
  match Entity.ofClass g.config c with
  | .error _ => false
  | .ok e =>
    match e.properties.mapM (Property.modelBody .builtin e.name), e.modelBody .builtin with
    | .ok bodies, .ok body =>
      decide ((g.mode.augmentsEntity = true → ∀ p ∈ e.properties, p.access.isField = true) ∧
        g.mode.Checks c e bodies body)
    | _, _ => false

theorem completes_of_check (h : g.completes? c = true) :
    ∃ e bodies body, g.Completes .builtin c e bodies body ∧ g.mode.Checks c e bodies body := by
  unfold completes? at h
  split at h
  · cases h
  · next e hdescribed =>
    split at h
    · next bodies body hbodies hbody =>
      obtain ⟨haccessible, hchecks⟩ := of_decide_eq_true h
      exact ⟨e, bodies, body, ⟨hdescribed, haccessible, hbodies, hbody, hchecks.limited⟩, hchecks⟩
    · cases h

/-- A pass over a class whose members are annotated, after which all classes load. -/
theorem account_loads :
    ∃ generated r',
      (Generator.mk .annotated .runtime).generate {} Entity.account = .ok (generated, r') ∧
      Entity.ofClass .annotated Entity.account = .ok generated.entity ∧
      ClassRegistry.DigestsSeparate [] generated.records ∧
      r'.contains ClassName.object = false ∧
      (∃ loaded, (r'.load Entity.account.name).1 = .ok loaded) ∧ r'.AllLoad r'.names ∧
      r'.annotations = .builtin := by
  have hcheck : (Generator.mk .annotated .runtime).completes? Entity.account = true := by
    decide +kernel
  obtain ⟨e, bodies, body, hcompletes, hchecks⟩ := completes_of_check hcheck
  obtain ⟨generated, r', hgenerate, rfl, hdigests, hobject, hload, hall⟩ :=
    hcompletes.loads_new hchecks (by decide) rfl
  obtain ⟨_, _, hinstalls⟩ := generate_installs (.new .builtin) hdigests hgenerate
  exact ⟨generated, r', hgenerate, hcompletes.described, hdigests, hobject, hload, hall,
    hinstalls.annotations⟩

end Generator

/-! A class of one field, in which everything can be computed but digests. -/

namespace Counter

def field : FieldMeta := { name := "a", descriptor := "I" }

/-- The class, under any name and with any superclass. -/
def classMeta (name : String) (superName : Option String) : ClassMeta :=
  { name, superName, fields := [field] }

def property : Property := .describe {} "a" (.ofPrimitive .int) .field [] false

def entity (name : String) : Entity :=
  { name
    simpleName := Qualified.simpleName name
    package := Qualified.packageName name
    properties := [property]
    annotations := []
    isAbstract := false
    isInterface := false
    policy := {} }

def propertyModel (name : String) : ClassBody :=
  property.modelBodyOf name
    [Code.loadThis, .newList 0, .putField (property.modelName name) annotationsField] [.newList 0]
    [.newType (.primitive .int) "int" .exact 0 0]

def entityModel (name : String) : ClassBody :=
  (entity name).modelBodyOf
    [Code.loadThis, .newList 0, .putField (entity name).modelName annotationsField]
    [.newType .classType name .exact 0 0]

def bodies (mode : GenerationMode) (name : String) (superName : Option String) : List ClassBody :=
  mode.bodies (classMeta name superName) (entity name) [propertyModel name] (entityModel name)

/-- What decides whether a pass over the class completes and the class is well-formed. -/
abbrev Checks (mode : GenerationMode) (name : String) (superName : Option String) : Prop :=
  mode.Checks (classMeta name superName) (entity name) [propertyModel name] (entityModel name)

variable {mode : GenerationMode} {name : String} {superName : Option String}

private theorem ofField_ok : Property.ofField {} name field = .ok property := by
  have htype : Signature.parseType field.typeSignature = .ok (.ofPrimitive .int) :=
    Signature.parseType_int
  unfold Property.ofField
  rw [htype]
  rfl

theorem discovers : Entity.discover {} (classMeta name superName) = .ok (entity name) := by
  have hfields : ((classMeta name superName).fields.filter ({} : MappingConfig).admitsField).mapM
      (Property.ofField {} name) = .ok [property] := by
    change [field].mapM (Property.ofField {} name) = _
    rw [List.mapM_cons, ofField_ok]
    rfl
  have habstract : AccessFlag.within AccessFlag.isAbstract AccessFlag.isPublic = false := rfl
  have hinterface : AccessFlag.within AccessFlag.isInterface AccessFlag.isPublic = false := rfl
  refine Checked.bind_eq_ok.mpr ⟨_, hfields, Checked.bind_eq_ok.mpr ⟨[property], rfl, ?_⟩⟩
  unfold entity ClassMeta.isAbstract ClassMeta.isInterface
  simp only [classMeta, habstract, hinterface]
  rfl

private theorem completes (h : Checks mode name superName) :
    (Generator.mk {} mode).Completes .builtin (classMeta name superName) (entity name)
      [propertyModel name] (entityModel name) where
  described := Checked.bind_eq_ok.mpr ⟨entity name, discovers, rfl⟩
  accessible _ := by simp [entity, property, Property.describe, PropertyAccess.isField]
  models := rfl
  model := rfl
  limited := h.limited

/-- A pass over the class completes where nothing is registered yet, and leaves the class of all
objects to the outside. -/
theorem generates (h : Checks mode name superName) :
    ∃ generated r', (Generator.mk {} mode).generate {} (classMeta name superName) =
        .ok (generated, r') ∧
      generated.entity = entity name ∧ ClassRegistry.DigestsSeparate [] generated.records ∧
      r'.contains ClassName.object = false ∧
      (Generator.mk {} mode).Installs {} r' (classMeta name superName) generated
        [propertyModel name] (entityModel name) :=
  (completes h).generates_new h

/-- Where the class extends none of the others, all classes load. -/
theorem loads (h : Checks mode name none) :
    ∃ generated r', (Generator.mk {} mode).generate {} (classMeta name none) =
        .ok (generated, r') ∧
      generated.entity = entity name ∧ ClassRegistry.DigestsSeparate [] generated.records ∧
      r'.contains ClassName.object = false ∧ (∃ loaded, (r'.load name).1 = .ok loaded) ∧
      r'.AllLoad r'.names :=
  (completes h).loads_new h (fun _ hf => List.mem_singleton.mp hf ▸ rfl) rfl

end Counter

/-! The two ways to write an accessor that calls the injected methods. -/

/-- Writing the accessor of a field piece by piece gives the bytes of the class that is assembled as
a body, or fails for the same error of the format. -/
theorem Backend.direct_agrees (e : Entity) {p : Property} (hfield : p.access.isField = true) :
    (∃ written assembled, Backend.direct.accessorClass e p = .ok written ∧
      Backend.builder.accessorClass e p = .ok assembled ∧
      written.name = assembled.name ∧ written.bytes = assembled.bytes) ∨
    ∃ f : FormatError, Backend.direct.accessorClass e p = .error (.format f) ∧
      Backend.builder.accessorClass e p = .error (.failure (.malformedBody f)) := by
  have hguard (b : Backend) : ¬ (b.needsAugmentation && !p.access.isField) = true := by
    simp [hfield]
  have hbytes : (AccessorShape.directImage ⟨e.name, p⟩).toBytes =
      (AccessorShape.callingBody ⟨e.name, p⟩).encode := by
    rw [AccessorShape.directImage_eq]
    rfl
  simp only [accessorClass, if_neg (hguard _), hbytes, ClassBody.record, ClassRecord.ofBody]
  cases (AccessorShape.callingBody ⟨e.name, p⟩).encode with
  | ok bytes =>
    left
    exact ⟨_, _, rfl, rfl, rfl, rfl⟩
  | error f =>
    right
    exact ⟨f, rfl, rfl⟩

theorem Backend.direct_agrees_counter :
    ∃ written assembled,
      Backend.direct.accessorClass (Counter.entity "app.Counter") Counter.property = .ok written ∧
      Backend.builder.accessorClass (Counter.entity "app.Counter") Counter.property =
        .ok assembled ∧
      written.name = assembled.name ∧ written.bytes = assembled.bytes := by
  have hlimited : (Backend.direct.accessorBody ⟨"app.Counter", Counter.property⟩).Limited := by
    decide +kernel
  obtain hsame | ⟨f, herror, -⟩ :=
    Backend.direct_agrees (Counter.entity "app.Counter") (p := Counter.property) rfl
  · exact hsame
  · obtain ⟨record, hrecord⟩ :=
      accessorClass_ok .direct (Counter.entity "app.Counter") (fun _ => rfl) hlimited
    rw [hrecord] at herror
    cases herror

end EntityForge
