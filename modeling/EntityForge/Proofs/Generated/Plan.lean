import EntityForge.Generated.Generator
import EntityForge.Proofs.Entity.Discovery
import EntityForge.Proofs.Generated.Members
import EntityForge.Proofs.Registry.Slots
import EntityForge.Proofs.Text.Keyed

/-!
What one pass makes and leaves in the registry. The records of a generated entity encode its class,
its accessors, the models of its properties and its own model, in this order; once they are
registered, the registry holds each of these classes under its name.
-/

namespace EntityForge

/-- A record holds a class under the name of the class. -/
structure ClassRecord.Encodes (record : ClassRecord) (b : ClassBody) : Prop where
  name : record.name = b.name
  bytes : b.encode = .ok record.bytes

theorem ClassBody.record_encodes {b : ClassBody} {record : ClassRecord}
    (h : b.record = .ok record) : record.Encodes b := by
  unfold ClassBody.record ClassRecord.ofBody at h
  cases hencode : b.encode with
  | error e =>
    rw [hencode] at h
    cases h
  | ok bytes =>
    rw [hencode] at h
    cases h
    exact ⟨rfl, hencode⟩

/-! The classes of a pass. -/

namespace AccessorShape

private theorem constructor_plain :
    constructor Construction.plain [.returnVoid] =
      ⟨Construction.name, Construction.plain, AccessFlag.isPublic, 1, [.returnVoid]⟩ := by
  unfold constructor MethodDef.ofCode Code.neededLocals
  rw [MethodType.parse_plain]
  rfl

private theorem member_get (s : AccessorShape) :
    member AccessorMember.get s.callReader =
      ⟨AccessorMember.get.name, AccessorMember.get.descriptor, AccessFlag.isPublic, 2,
        s.callReader⟩ := by
  have hloads : Code.maxLoad? s.callReader = some 1 := by
    unfold callReader boxCode
    cases s.property.type.primitive? <;> rfl
  unfold member MethodDef.ofCode Code.neededLocals
  rw [MethodType.parse_get, hloads]
  rfl

private theorem member_set (s : AccessorShape) :
    member AccessorMember.set s.callWriter =
      ⟨AccessorMember.set.name, AccessorMember.set.descriptor, AccessFlag.isPublic, 3,
        s.callWriter⟩ := by
  have hloads : Code.maxLoad? s.callWriter = some 2 := by
    unfold callWriter checkCode
    cases s.property.type.primitive? <;> rfl
  unfold member MethodDef.ofCode Code.neededLocals
  rw [MethodType.parse_set, hloads]
  rfl

/-- Written or assembled, the getter and the setter have the same instructions. -/
private theorem directReader_eq (s : AccessorShape) : s.directReader = s.callReader := by
  unfold directReader callReader boxCode
  cases s.property.type.primitive? <;> rfl

private theorem directWriter_eq (s : AccessorShape) : s.directWriter = s.callWriter := by
  unfold directWriter callWriter checkCode
  cases s.property.type.primitive? <;> rfl

/-- The class written piece by piece is the one that is assembled: it has the same code, and the
locals counted by hand are those that the code needs. -/
theorem directImage_eq (s : AccessorShape) : s.directImage = s.callingBody.image := by
  unfold directImage callingBody head ClassBody.image
  rw [constructor_plain, member_get, member_set, directReader_eq, directWriter_eq]
  simp only [Option.elim_some, List.foldl_cons, List.foldl_nil]

end AccessorShape

def Backend.accessorBody (backend : Backend) (s : AccessorShape) : ClassBody :=
  if backend.needsAugmentation then s.callingBody else s.resolvingBody

theorem Backend.accessorBody_name (backend : Backend) (s : AccessorShape) :
    (backend.accessorBody s).name = s.className := by
  unfold accessorBody
  split <;> rfl

theorem Backend.accessorClass_encodes {backend : Backend} {e : Entity} {p : Property}
    {record : ClassRecord} (h : backend.accessorClass e p = .ok record) :
    record.Encodes (backend.accessorBody ⟨e.name, p⟩) ∧
      (backend.needsAugmentation = true → p.access.isField = true) := by
  unfold accessorClass at h
  dsimp only at h
  split at h
  · cases h
  · next hfield =>
    refine ⟨?_, fun haugments => by simpa [haugments] using hfield⟩
    cases backend with
    | direct =>
      dsimp only at h
      rw [AccessorShape.directImage_eq] at h
      split at h
      · next bytes hbytes =>
        obtain rfl := Except.ok.inj h
        exact ⟨(accessorBody_name _ _).symm, hbytes⟩
      · cases h
    | builder => exact ClassBody.record_encodes h
    | resolved => exact ClassBody.record_encodes h

def GenerationMode.entityBody (mode : GenerationMode) (c : ClassMeta) (e : Entity) : ClassBody :=
  if mode.augmentsEntity then
    { c.compiled with
      methods := c.compiled.methods ++ e.properties.flatMap (ClassMeta.injectedMethods c.name) }
  else c.compiled

/-- What is injected stands behind what is declared. -/
theorem ClassMeta.augmented_eq {c : ClassMeta} {properties : List Property} {b : ClassBody}
    (h : c.augmented properties = .ok b) :
    b = { c.compiled with
      methods := c.compiled.methods ++ properties.flatMap (injectedMethods c.name) } := by
  unfold augmented at h
  split at h
  · cases h
  · exact (Except.ok.inj h).symm

theorem Generator.entityClass_encodes {g : Generator} {c : ClassMeta} {e : Entity}
    {record : ClassRecord} (h : g.entityClass c e = .ok record) :
    record.Encodes (g.mode.entityBody c e) := by
  unfold entityClass at h
  unfold GenerationMode.entityBody
  dsimp only at h
  split at h
  · next haugments =>
    rw [if_pos haugments]
    obtain ⟨body, hbody, h⟩ := Checked.bind_eq_ok.mp h
    rw [← ClassMeta.augmented_eq hbody]
    exact ClassBody.record_encodes h
  · next hplain =>
    rw [if_neg hplain]
    exact ClassBody.record_encodes h

/-- The model class of a property, from the code that replays its annotations and the code that
builds its load names and its type. -/
def Property.modelBodyOf (p : Property) (entity : String) (replay loadNames type : Code) :
    ClassBody :=
  let className := p.modelName entity
  { name := className
    kind := .propertyModel
    flags := AccessorShape.flags
    superName := some ClassName.object
    interfaces := [ClassName.propertyModel]
    fields := modelFields
    methods :=
      AccessorShape.constructor Construction.plain (replay ++ p.accessorCode entity) ::
        p.textMethods entity ++ p.flagMethods ++
          [.answersCode PropertyQuery.loadNames loadNames,
           .answersCode PropertyQuery.typeData type,
           .answersField PropertyQuery.accessor className PropertyQuery.accessorField,
           .answersField PropertyQuery.annotations className annotationsField] }

/-- The model class of an entity, from the code that replays its annotations and the code that
builds its type. -/
def Entity.modelBodyOf (e : Entity) (replay type : Code) : ClassBody :=
  let className := e.modelName
  let storeConfig : Code :=
    [Code.loadThis, .load 1, .putField className EntityQuery.configField]
  { name := className
    kind := .entityModel
    flags := AccessorShape.flags
    superName := some ClassName.object
    interfaces := [ClassName.entityModel]
    fields := modelFields
    methods :=
      [AccessorShape.constructor Construction.fromConfig
        (storeConfig ++ replay ++ e.namesCode ++ e.propertiesCode),
       .answersText EntityQuery.name e.name,
       .answersText EntityQuery.simpleName e.simpleName,
       .answersCode EntityQuery.type type] ++ fieldMethods className ++ e.flagMethods }

/-- What the model class of a property is made of. -/
theorem Property.modelBody_ok {annotations : AnnotationRegistry} {entity : String} {p : Property}
    {b : ClassBody} (h : p.modelBody annotations entity = .ok b) :
    ∃ replayed replay loadNames type,
      annotations.replayable p.annotations = .ok replayed ∧
      Replay.code entity (p.modelName entity) replayed = .ok replay ∧
      Code.textList p.loadNames = .ok loadNames ∧ Code.typeData p.type = .ok type ∧
      b = p.modelBodyOf entity replay loadNames type := by
  obtain ⟨replayed, hreplayed, h⟩ := Checked.bind_eq_ok.mp h
  obtain ⟨replay, hreplay, h⟩ := Checked.bind_eq_ok.mp h
  obtain ⟨loadNames, hloadNames, h⟩ := Checked.bind_eq_ok.mp h
  obtain ⟨type, htype, h⟩ := Checked.bind_eq_ok.mp h
  obtain rfl := Except.ok.inj h
  exact ⟨replayed, replay, loadNames, type, Checked.mapError_eq_ok.mp hreplayed, hreplay,
    Checked.mapError_eq_ok.mp hloadNames, Checked.mapError_eq_ok.mp htype, rfl⟩

/-- What the model class of an entity is made of. -/
theorem Entity.modelBody_ok {annotations : AnnotationRegistry} {e : Entity} {b : ClassBody}
    (h : e.modelBody annotations = .ok b) :
    ∃ replayed replay type,
      annotations.replayable e.annotations = .ok replayed ∧
      e.properties.length ≤ 65535 ∧
      Replay.code e.name e.modelName replayed = .ok replay ∧
      Code.typeData e.type = .ok type ∧ b = e.modelBodyOf replay type := by
  obtain ⟨replayed, hreplayed, h⟩ := Checked.bind_eq_ok.mp h
  dsimp only at h
  split at h
  · cases h
  · next hcount =>
    obtain ⟨replay, hreplay, h⟩ := Checked.bind_eq_ok.mp h
    obtain ⟨type, htype, h⟩ := Checked.bind_eq_ok.mp h
    obtain rfl := Except.ok.inj h
    exact ⟨replayed, replay, type, Checked.mapError_eq_ok.mp hreplayed, Nat.le_of_not_lt hcount,
      hreplay, Checked.mapError_eq_ok.mp htype, rfl⟩

namespace ClassRegistry

/-- A registry that goes on from another one: by registering and loading, without losing records. -/
structure Continues (r r' : ClassRegistry) : Prop where
  reachable : r'.Reachable
  records : Keeps r.records r'.records
  annotations : r'.annotations = r.annotations

end ClassRegistry

/-- The bodies of the classes that a pass makes, in their order, given the bodies of the models. -/
def GenerationMode.bodies (mode : GenerationMode) (c : ClassMeta) (e : Entity)
    (models : List ClassBody) (model : ClassBody) : List ClassBody :=
  mode.entityBody c e ::
    e.properties.map (fun p => mode.backend.accessorBody ⟨e.name, p⟩) ++ models ++ [model]

structure Generator.Makes (g : Generator) (annotations : AnnotationRegistry) (c : ClassMeta)
    (generated : GeneratedEntity) (bodies : List ClassBody) (body : ClassBody) : Prop where
  described : Entity.ofClass g.config c = .ok generated.entity
  modelClass : generated.entityModelClass = generated.entity.modelName
  accessorClasses : generated.accessorClasses =
    generated.entity.properties.map fun p => GeneratedName.accessor generated.entity.name p.name
  accessible : g.mode.backend.needsAugmentation = true →
    ∀ p ∈ generated.entity.properties, p.access.isField = true
  models : List.Forall₂
    (fun p b => Property.modelBody annotations generated.entity.name p = .ok b)
    generated.entity.properties bodies
  model : generated.entity.modelBody annotations = .ok body
  records : List.Forall₂ ClassRecord.Encodes generated.records
    (g.mode.bodies c generated.entity bodies body)

namespace Generator

theorem plan_makes {g : Generator} {annotations : AnnotationRegistry} {c : ClassMeta}
    {generated : GeneratedEntity} (h : g.plan annotations c = .ok generated) :
    ∃ bodies body, g.Makes annotations c generated bodies body := by
  obtain ⟨e, hdescribed, h⟩ := Checked.bind_eq_ok.mp h
  obtain ⟨entityRecord, hentity, h⟩ := Checked.bind_eq_ok.mp h
  obtain ⟨accessors, haccessors, h⟩ := Checked.bind_eq_ok.mp h
  obtain ⟨modelRecords, hmodels, h⟩ := Checked.bind_eq_ok.mp h
  obtain ⟨modelRecord, hmodel, h⟩ := Checked.bind_eq_ok.mp h
  cases h
  have haccessors := (Checked.mapM_eq_ok.mp haccessors).imp
    fun _ _ hrecord => Backend.accessorClass_encodes hrecord
  have hmodels : List.Forall₂
      (fun p record => ∃ b, p.modelBody annotations e.name = .ok b ∧ record.Encodes b)
      e.properties modelRecords :=
    (Checked.mapM_eq_ok.mp hmodels).imp fun p record hrecord => by
      obtain ⟨b, hb, hrecord⟩ := Checked.bind_eq_ok.mp hrecord
      exact ⟨b, hb, ClassBody.record_encodes hrecord⟩
  obtain ⟨bodies, hbodies, hrecords⟩ := Checked.forall₂_middle hmodels
  obtain ⟨body, hbody, hrecord⟩ := Checked.bind_eq_ok.mp hmodel
  have hrecord := ClassBody.record_encodes hrecord
  refine ⟨bodies, body, hdescribed, ?_, ?_, ?_, hbodies, hbody, ?_⟩
  · obtain ⟨_, _, _, _, _, _, _, rfl⟩ := Entity.modelBody_ok hbody
    exact hrecord.name
  · refine List.forall₂_eq_eq_eq ▸ ?_
    rw [List.forall₂_map_left_iff, List.forall₂_map_right_iff]
    exact haccessors.flip.imp fun record p h =>
      h.1.name.trans (Backend.accessorBody_name _ ⟨e.name, p⟩)
  · intro haugments p hp
    obtain ⟨_, _, h⟩ := Checked.forall₂_mem_left haccessors hp
    exact h.2 haugments
  · refine List.rel_append (List.rel_append (.cons (entityClass_encodes hentity) ?_) hrecords)
      (.cons hrecord .nil)
    rw [List.forall₂_map_right_iff]
    exact haccessors.flip.imp fun _ _ h => h.1

/-- A pass plans, and what it does to the registry is what registering its plan does. -/
theorem pass_on (g : Generator) (c : ClassMeta) (r : ClassRegistry) :
    (g.pass c).on r =
      match g.plan r.annotations c with
      | .error e => (.error e, r)
      | .ok planned =>
        match (Registering.registerAll planned.records).on r with
        | (.ok _, r') => (.ok planned, r')
        | (.error e, r') => (.error (.failure e), r') := by
  change Registering.on (liftM (g.plan r.annotations c) >>= _) r = _
  cases g.plan r.annotations c with
  | error e => rfl
  | ok planned =>
    change Registering.on
      ((Registering.registerAll planned.records).adapt GenerationError.failure >>=
        fun _ => pure planned) r = _
    dsimp only
    cases hregister : (Registering.registerAll planned.records).on r with
    | mk result r' =>
      have hadapt := Registering.on_adapt GenerationError.failure
        (Registering.registerAll planned.records) r
      rw [hregister] at hadapt
      cases result with
      | ok outcomes => exact Registering.on_bind_ok hadapt
      | error e => exact Registering.on_bind_error hadapt

section Passes

variable {g : Generator} {r r' : ClassRegistry} {c : ClassMeta} {generated : GeneratedEntity}

theorem pass_unplanned {e : GenerationError} (h : g.plan r.annotations c = .error e) :
    (g.pass c).on r = (.error e, r) := by
  rw [pass_on, h]

theorem pass_refused {e : Failure} (hplan : g.plan r.annotations c = .ok generated)
    (hregister : (Registering.registerAll generated.records).on r = (.error e, r')) :
    (g.pass c).on r = (.error (.failure e), r') := by
  rw [pass_on, hplan]
  dsimp only
  rw [hregister]

theorem pass_done {outcomes : List Registration} (hplan : g.plan r.annotations c = .ok generated)
    (hregister : (Registering.registerAll generated.records).on r = (.ok outcomes, r')) :
    (g.pass c).on r = (.ok generated, r') := by
  rw [pass_on, hplan]
  dsimp only
  rw [hregister]

end Passes

/-- A pass succeeds if it can be planned and what it plans can be registered. -/
theorem generate_ok_iff {g : Generator} {r r' : ClassRegistry} {c : ClassMeta}
    {generated : GeneratedEntity} :
    g.generate r c = .ok (generated, r') ↔
      g.plan r.annotations c = .ok generated ∧
        ∃ outcomes, r.registerAll generated.records = .ok (outcomes, r') := by
  unfold generate ClassRegistry.registerAll
  simp only [Registering.accepted_eq_ok]
  constructor
  · intro h
    rw [pass_on] at h
    cases hplan : g.plan r.annotations c with
    | error e =>
      rw [hplan] at h
      cases h
    | ok planned =>
      rw [hplan] at h
      dsimp only at h
      split at h
      · next outcomes _ hregister =>
        cases h
        exact ⟨rfl, outcomes, hregister⟩
      · cases h
  · rintro ⟨hplan, outcomes, hregister⟩
    exact pass_done hplan hregister

/-- A pass that succeeds registers what it made. -/
theorem generate_makes {g : Generator} {r r' : ClassRegistry} {c : ClassMeta}
    {generated : GeneratedEntity} (h : g.generate r c = .ok (generated, r')) :
    ∃ bodies body outcomes, g.Makes r.annotations c generated bodies body ∧
      r.registerAll generated.records = .ok (outcomes, r') := by
  obtain ⟨hplan, outcomes, hregister⟩ := generate_ok_iff.mp h
  obtain ⟨bodies, body, hmakes⟩ := plan_makes hplan
  exact ⟨bodies, body, outcomes, hmakes, hregister⟩

theorem generate_reachable {g : Generator} {r r' : ClassRegistry} {c : ClassMeta}
    {generated : GeneratedEntity} (hreach : r.Reachable)
    (h : g.generate r c = .ok (generated, r')) : r'.Reachable := by
  obtain ⟨_, _, hregister⟩ := generate_ok_iff.mp h
  exact hreach.registerAll hregister

/-- After a pass, the names of all classes that it made are registered. -/
theorem generate_names {g : Generator} {r r' : ClassRegistry} {c : ClassMeta}
    {generated : GeneratedEntity} (h : g.generate r c = .ok (generated, r')) :
    generated.classNames ⊆ r'.names := by
  obtain ⟨_, _, hregister⟩ := generate_ok_iff.mp h
  intro name hname
  obtain ⟨record, hrecord, rfl⟩ := List.mem_map.mp hname
  obtain ⟨stored, hstored, _⟩ := ClassRegistry.registerAll_digest hregister hrecord
  apply Keyed.mem_keys_iff.mpr
  rw [Keyed.contains, hstored]
  rfl

/-- The registry after a pass: it holds the classes that the pass made, and whatever it has loaded
is what its records define. -/
structure Installs (g : Generator) (r r' : ClassRegistry) (c : ClassMeta)
    (generated : GeneratedEntity) (bodies : List ClassBody) (body : ClassBody) : Prop where
  makes : g.Makes r.annotations c generated bodies body
  stores : ∀ b ∈ g.mode.bodies c generated.entity bodies body, ClassRegistry.Stores r'.records b
  keeps : ∀ name record, r'.records.get? name = some record →
    r.records.get? name = some record ∨
      ∃ b ∈ g.mode.bodies c generated.entity bodies body, b.name = name
  known : ClassRegistry.Keeps r.records r'.records
  loaded : r'.loaded = r.loaded
  annotations : r'.annotations = r.annotations
  sound : r'.Sound

theorem Installs.describes {g : Generator} {r r' : ClassRegistry} {c : ClassMeta}
    {generated : GeneratedEntity} {bodies : List ClassBody} {body : ClassBody}
    (h : g.Installs r r' c generated bodies body) : generated.entity.Describes c :=
  Entity.ofClass_describes h.makes.described

/-- A name that is new after a pass is that of a class that the pass made. -/
theorem Installs.made {g : Generator} {r r' : ClassRegistry} {c : ClassMeta}
    {generated : GeneratedEntity} {bodies : List ClassBody} {body : ClassBody}
    (h : g.Installs r r' c generated bodies body) {name : String} (hnew : r.contains name = false)
    (hregistered : r'.contains name = true) :
    ∃ b ∈ g.mode.bodies c generated.entity bodies body, b.name = name := by
  obtain ⟨record, hrecord⟩ := Option.isSome_iff_exists.mp hregistered
  rcases h.keeps name record hrecord with hknown | hmade
  · simp [ClassRegistry.contains, Keyed.contains, hknown] at hnew
  · exact hmade

/-- What a pass installed stays installed while a registry goes on. -/
theorem Installs.continues {g : Generator} {r r' r'' : ClassRegistry} {c : ClassMeta}
    {generated : GeneratedEntity} {bodies : List ClassBody} {body : ClassBody}
    (h : g.Installs r r' c generated bodies body) (hlater : r'.Continues r'') :
    g.Installs r'' r'' c generated bodies body where
  makes := by
    rw [hlater.annotations, h.annotations]
    exact h.makes
  stores b hb := by
    obtain ⟨record, hrecord, hencode⟩ := h.stores b hb
    exact ⟨record, hlater.records _ _ hrecord, hencode⟩
  keeps _ _ hrecord := .inl hrecord
  known _ _ hrecord := hrecord
  loaded := rfl
  annotations := rfl
  sound := hlater.reachable.sound

/-- A pass installs its classes, as long as digests tell apart the bytes that compete for a name. -/
theorem generate_installs {g : Generator} {r r' : ClassRegistry} {c : ClassMeta}
    {generated : GeneratedEntity} (hreach : r.Reachable)
    (hdigests : ClassRegistry.DigestsSeparate r.records generated.records)
    (h : g.generate r c = .ok (generated, r')) :
    ∃ bodies body, g.Installs r r' c generated bodies body := by
  obtain ⟨bodies, body, outcomes, hmakes, hregister⟩ := generate_makes h
  obtain ⟨hknown, hloaded, hannotations⟩ := ClassRegistry.registerAll_keeps hregister
  refine ⟨bodies, body, hmakes, ?_, ?_, hknown, hloaded, hannotations,
    (hreach.registerAll hregister).sound⟩
  · intro b hb
    obtain ⟨record, hrecord, hencodes⟩ := Checked.forall₂_mem_right hmakes.records hb
    obtain ⟨stored, hstored, hbytes⟩ := ClassRegistry.registerAll_stores hregister hdigests hrecord
    exact ⟨stored, hencodes.name ▸ hstored, hbytes ▸ hencodes.bytes⟩
  · intro name record hget
    rcases ClassRegistry.registerAll_origin hregister hget with hbefore | ⟨hin, rfl⟩
    · exact .inl hbefore
    · obtain ⟨b, hb, hencodes⟩ := Checked.forall₂_mem_left hmakes.records hin
      exact .inr ⟨b, hb, hencodes.name.symm⟩

end Generator

end EntityForge
