import EntityForge.Model.Snapshot
import EntityForge.Proofs.Generated.PropertyModel

/-!
Models of entities. The constructor of an entity model stores the configuration, the replayed
annotations, the names that the entity sets or the configuration makes, and new models of all
properties; from then on each query answers what the description of the entity says.
-/

namespace EntityForge

open Run

def EntityQuery.all : List MethodRef :=
  [name, simpleName, collectionName, discriminator, discriminatorKey, useDiscriminator, isAbstract,
   isInterface, isEmbedded, type, properties, annotations, config]

/-- An object of the model class of a property, with the annotations that a registry completes. -/
def Property.ModelledIn (p : Property) (registry : AnnotationRegistry) (entity : String)
    (m : Machine) (id : Nat) : Prop :=
  ∃ annotations, registry.replayed p.annotations = .ok annotations ∧
    p.ModelledBy entity annotations m id

namespace Entity

variable {e : Entity} {config : MappingConfig} {annotations : List Annotation} {ids : List Nat}
  {m m' : Machine} {id : Nat} {registry : AnnotationRegistry}

/-- An object of the model class of an entity, with what its constructor computes. -/
structure ModelledBy (e : Entity) (registry : AnnotationRegistry) (config : MappingConfig)
    (annotations : List Annotation) (ids : List Nat) (m : Machine) (id : Nat) : Prop where
  body : ∃ replay type, Code.Pushes type [.type e.type] ∧
    (m.classOf id).body = e.modelBodyOf replay type
  configuration : m.field? id EntityQuery.configField = some (.config config)
  annotations : m.field? id annotationsField = some (.list (annotations.map .annotationUse))
  collectionName : m.field? id EntityQuery.collectionNameField =
    some (.text (e.collectionName config))
  discriminator : m.field? id EntityQuery.discriminatorField = some (.text (e.discriminator config))
  discriminatorKey : m.field? id EntityQuery.discriminatorKeyField =
    some (.text (e.discriminatorKey config))
  properties : m.field? id EntityQuery.propertiesField = some (.list (ids.map .object))
  models : List.Forall₂ (fun p id => p.ModelledIn registry e.name m id) e.properties ids

/-! Making a model. -/

section Making

variable {c : LoadedClass} {replay type : Code}

private theorem modelFields_found (h : c.Fronts (e.modelBodyOf replay type))
    {name descriptor : String}
    (hf : (name, descriptor) ∈ modelFields.map fun f => (f.name, f.descriptor)) {t : TypeTree}
    (hparse : Signature.parseType descriptor = .ok t) : c.HasField name t := by
  have hfields : LoadedClass.instanceFields (e.modelBodyOf replay type) = modelFields := rfl
  have hnames : (modelFields.map (·.name)).Nodup := by decide
  obtain ⟨f, hmem, heq⟩ := List.mem_map.mp hf
  cases heq
  exact h.hasField (hfields ▸ hnames) (hfields ▸ hmem) hparse

/-- A name that is not set is what the configuration makes of it. -/
private theorem namingCode_moves (callee : Callee) (methodType : MethodType) {f : Frame}
    {self : Nat} {field computed : String} (set : Option String) (operands : Code)
    (otherwise : Intrinsic) (hstands : m.Stands self c)
    (hfield : c.HasField field (.ofClass "java.lang.String"))
    (hself : f.locals[0]? = some (.object self)) (hconfig : f.locals[1]? = some (.config config))
    (hcomputed : ∀ f : Frame, Moves callee methodType (operands ++ [.intrinsic otherwise])
      (f.push (.config config)) m (f.push (.text computed)) m) :
    ∃ m', Moves callee methodType (namingCode c.name field set operands otherwise) f m f m' ∧
      Machine.Sets self field (.text (set.getD computed)) m m' := by
  obtain ⟨m', hput, hsets⟩ := step_putField_sets callee methodType f hstands hfield
    (m.fits_text (set.getD computed))
  refine ⟨m', ?_, hsets⟩
  unfold namingCode
  cases set with
  | some s =>
    exact .cons (step_load hself) (.cons (step_loadConstant (.text s)) (.step hput))
  | none =>
    exact .cons (step_load hself) (.cons (step_load hconfig) ((hcomputed _).append (.step hput)))

/-- The fields of a model that hold the names of its entity, with these names. -/
def nameFields (e : Entity) (config : MappingConfig) : List (String × Value) :=
  [(EntityQuery.collectionNameField, .text (e.collectionName config)),
   (EntityQuery.discriminatorField, .text (e.discriminator config)),
   (EntityQuery.discriminatorKeyField, .text (e.discriminatorKey config))]

/-- The names of an entity are stored one after the other. -/
private theorem namesCode_moves (callee : Callee) (methodType : MethodType) {f : Frame} {self : Nat}
    (hfronts : c.Fronts (e.modelBodyOf replay type)) (hstands : m.Stands self c)
    (hself : f.locals[0]? = some (.object self)) (hconfig : f.locals[1]? = some (.config config)) :
    ∃ m', Moves callee methodType e.namesCode f m f m' ∧
      Machine.SetsInTurn self (e.nameFields config) m m' := by
  have hname : c.name = e.modelName := hfronts.name
  have hfound (name : String)
      (hf : (name, Descriptor.string) ∈ modelFields.map fun f => (f.name, f.descriptor)) :
      c.HasField name (.ofClass "java.lang.String") :=
    modelFields_found hfronts hf Signature.parseType_string
  obtain ⟨m₁, hmoves₁, hsets₁⟩ := namingCode_moves callee methodType e.policy.collection
    [Code.loadText e.simpleName] .collectionName hstands
    (hfound EntityQuery.collectionNameField (by decide))
    hself hconfig fun _ =>
      .cons (step_loadConstant (.text e.simpleName)) (.step (step_collectionName config _))
  have hstands₁ := hsets₁.stands c hstands
  obtain ⟨m₂, hmoves₂, hsets₂⟩ := namingCode_moves callee methodType e.policy.discriminator
    [Code.loadText e.name] .discriminator hstands₁
    (hfound EntityQuery.discriminatorField (by decide))
    hself hconfig fun _ =>
      .cons (step_loadConstant (.text e.name)) (.step (step_discriminator config _))
  have hstands₂ := hsets₂.stands c hstands₁
  obtain ⟨m₃, hmoves₃, hsets₃⟩ := namingCode_moves callee methodType e.policy.discriminatorKey []
    .discriminatorKey hstands₂
    (hfound EntityQuery.discriminatorKeyField (by decide))
    hself hconfig fun _ => .step (step_discriminatorKey config)
  rw [hname] at hmoves₁ hmoves₂ hmoves₃
  exact ⟨m₃, (hmoves₁.append hmoves₂).append hmoves₃,
    .cons hsets₁ (.cons hsets₂ (.cons hsets₃ (.nil m₃)))⟩

/-- The models of the properties are made and stored in a list. -/
private theorem propertiesCode_ends {r : ClassRegistry} {levels : Nat} {f : Frame} {self : Nat}
    (methodType : MethodType) (hfronts : c.Fronts (e.modelBodyOf replay type))
    (hstands : m.Stands self c) (hself : f.locals[0]? = some (.object self))
    (hm : r.Later m.registry) (hcount : e.properties.length ≤ 65535)
    (hmakes : ∀ p ∈ e.properties, Makes r levels (p.modelName e.name)
      (p.ModelledIn registry e.name)) :
    ∃ ids m₁ m₂, Ends (execute levels) methodType e.propertiesCode f m (.ok .null) m₂ ∧
      m.Grows m₁ ∧ Machine.Sets self EntityQuery.propertiesField (.list (ids.map .object)) m₁ m₂ ∧
      List.Forall₂ (fun p id => p.ModelledIn registry e.name m₂ id) e.properties ids := by
  have hname : c.name = e.modelName := hfronts.name
  have hfield : c.HasField EntityQuery.propertiesField (.ofClass "java.util.List") :=
    modelFields_found hfronts (by decide) Signature.parseType_list
  obtain ⟨ids, m₁, hnews, hgrows, hmodels⟩ := makes_all e.properties
    (fun p m m' id ⟨as, has, h⟩ hgrows => ⟨as, has, h.grows hgrows⟩) hmakes hm methodType
    (f.push (.object self))
  have hstands₁ := hstands.grows hgrows
  obtain ⟨m₂, hput, hsets⟩ := step_putField_sets (execute levels) methodType f hstands₁ hfield
    (m₁.fits_items (ids.map .object))
  rw [hname] at hput
  have hlength : (UInt16.ofNat e.properties.length).toNat = (ids.map Value.object).length := by
    rw [List.length_map, ← hmodels.length_eq]
    exact UInt16.toNat_ofNat_of_lt' (Nat.lt_succ_of_le hcount)
  refine ⟨ids, m₁, m₂, ?_, hgrows, hsets, ?_⟩
  · exact .cons (step_load hself) (hnews.ends (.cons (step_newList _ hlength)
      (.cons hput (.finish step_returnVoid))))
  · exact hmodels.imp fun p id ⟨hbehind, as, has, h⟩ =>
      ⟨as, has, h.sets hstands₁ (Nat.lt_of_lt_of_le hstands.bound hbehind) hsets⟩

/-- The model of an entity is made for a configuration. -/
theorem make_model {r : ClassRegistry} {levels : Nat} {known : List Annotation}
    (hlinks : m.registry.Links e.modelName c) (hfronts : c.Fronts (e.modelBodyOf replay type))
    (hreplay : Replay.code e.name e.modelName known = .ok replay)
    (hcompleted : known.mapM r.annotations.complete = .ok annotations)
    (htype : Code.Pushes type [.type e.type]) (hcount : e.properties.length ≤ 65535)
    (hmakes : ∀ p ∈ e.properties, Makes r levels (p.modelName e.name)
      (p.ModelledIn registry e.name)) (hm : r.Later m.registry) (config : MappingConfig) :
    ∃ ids m', (constructWith (execute (levels + 1)) e.modelName Construction.fromConfig
        [.config config]).on m = (.ok m.heap.size, m') ∧
      m.Grows m' ∧ e.ModelledBy registry config annotations ids m' m.heap.size := by
  have hname : c.name = e.modelName := hfronts.name
  obtain ⟨r', hlater, _, hmake, _⟩ := constructWith_on (execute (levels + 1))
    Construction.fromConfig [.config config] hlinks
  let method := AccessorShape.constructor Construction.fromConfig
    ([Code.loadThis, .load 1, .putField e.modelName EntityQuery.configField] ++ replay ++
      e.namesCode ++ e.propertiesCode)
  let f : Frame := .enter method m.heap.size [.config config]
  let callee := execute levels
  let methodType : MethodType := ⟨[.ofClass "critter.mapping.MappingConfig"], none⟩
  have hself : f.locals[0]? = some (.object m.heap.size) := Frame.enter_self _ _ _
  have hconfig : f.locals[1]? = some (.config config) := Frame.enter_arg _ _ rfl
  have hstands := m.stands_allocated r' c
  have hlater₀ : r.Later (m.allocated r' c).registry := hm.trans hlater
  have hconfigField : c.HasField EntityQuery.configField (.ofClass "critter.mapping.MappingConfig") :=
    modelFields_found hfronts (by decide) Signature.parseType_config
  have hannotationsField : c.HasField annotationsField annotationsType :=
    modelFields_found hfronts (by decide) Signature.parseType_list
  -- Configuration, annotations, names and models, all on the machine with the new object.
  obtain ⟨m₁, hput, hsets₁⟩ := step_putField_sets callee methodType f hstands
    hconfigField (Machine.fits_config _ config)
  rw [hname] at hput
  have hstands₁ := hsets₁.stands c hstands
  obtain ⟨m₂, hreplayed, hsets₂⟩ := Replay.code_moves callee methodType hreplay hcompleted hstands₁
    hname hannotationsField hself (hlater₀.trans hsets₁.later).annotations
  have hstands₂ := hsets₂.stands c hstands₁
  obtain ⟨m₃, hnames, hsets₃⟩ := namesCode_moves callee methodType hfronts hstands₂ hself hconfig
  let stored := (EntityQuery.configField, Value.config config) ::
    (annotationsField, .list (annotations.map .annotationUse)) :: e.nameFields config
  have hstored : Machine.SetsInTurn m.heap.size stored (m.allocated r' c) m₃ :=
    .cons hsets₁ (.cons hsets₂ hsets₃)
  have hstands₃ := hstored.stands hstands
  obtain ⟨ids, m₄, m₅, hends, hgrows₄, hsets₅, hmodels⟩ :=
    propertiesCode_ends methodType hfronts hstands₃ hself (hlater₀.trans hstored.later) hcount hmakes
  have hrun : (execute (levels + 1) m.heap.size method [.config config]).on (m.allocated r' c) =
      (.ok .null, m₅) := by
    refine execute_on MethodType.parse_fromConfig (.cons (Machine.fits_config _ config) .nil) ?_
    have hconfigured : Moves callee methodType
        [Code.loadThis, .load 1, .putField e.modelName EntityQuery.configField] f
        (m.allocated r' c) f m₁ :=
      .cons (step_load hself) (.cons (step_load hconfig) (.step hput))
    exact ((hconfigured.append hreplayed).append hnames).ends hends
  have hconstructor : c.declaredMethod? Construction.name Construction.fromConfig =
      some method := by
    rw [LoadedClass.declaredMethod?, hfronts.body]
    rfl
  -- A field keeps what was stored in it while the models of the properties are made and stored.
  have hunset : EntityQuery.propertiesField ∉ stored.map (·.1) :=
    (by decide : EntityQuery.propertiesField ∉ [EntityQuery.configField, annotationsField,
      EntityQuery.collectionNameField, EntityQuery.discriminatorField,
      EntityQuery.discriminatorKeyField])
  have hdistinct : (stored.map (·.1)).Nodup :=
    (by decide : [EntityQuery.configField, annotationsField, EntityQuery.collectionNameField,
      EntityQuery.discriminatorField, EntityQuery.discriminatorKeyField].Nodup)
  have hkept {name : String} {v : Value} (hfield : (name, v) ∈ stored) :
      m₅.field? m.heap.size name = some v := by
    have hother : name ≠ EntityQuery.propertiesField := fun heq =>
      hunset (heq ▸ List.mem_map_of_mem hfield)
    rw [hsets₅.others _ hother, hgrows₄.field? hstands₃.bound]
    exact hstored.field hdistinct hfield
  refine ⟨ids, m₅, hmake method _ _ hconstructor hrun, ?_, ?_⟩
  · have hgrows₃ := (Machine.allocated_grows hlater c).setsInTurn (Nat.le_refl _) hstored
    exact (hgrows₃.trans hgrows₄).sets (Nat.le_refl _) hsets₅
  · refine ⟨?_, hkept ?_, hkept ?_, hkept ?_, hkept ?_, hkept ?_, hsets₅.field, hmodels⟩
    · rw [(hsets₅.stands c (hstands₃.grows hgrows₄)).type, hfronts.body]
      exact ⟨replay, type, htype, rfl⟩
    all_goals simp [stored, nameFields]

end Making

/-! What a model answers. -/

def answers (e : Entity) (config : MappingConfig) (annotations : List Annotation)
    (ids : List Nat) : List (MethodRef × Value) :=
  [(EntityQuery.name, .text e.name), (EntityQuery.simpleName, .text e.simpleName),
   (EntityQuery.collectionName, .text (e.collectionName config)),
   (EntityQuery.discriminator, .text (e.discriminator config)),
   (EntityQuery.discriminatorKey, .text (e.discriminatorKey config)),
   (EntityQuery.useDiscriminator, .bool e.policy.useDiscriminator),
   (EntityQuery.isAbstract, .bool e.isAbstract), (EntityQuery.isInterface, .bool e.isInterface),
   (EntityQuery.isEmbedded, .bool e.policy.embedded), (EntityQuery.type, .type e.type),
   (EntityQuery.properties, .list (ids.map .object)),
   (EntityQuery.annotations, .list (annotations.map .annotationUse)),
   (EntityQuery.config, .config config)]

theorem answers_queries :
    (e.answers config annotations ids).map (·.1) = EntityQuery.all := rfl

/-- A model answers every query as its entity is described. -/
theorem ModelledBy.answers (h : e.ModelledBy registry config annotations ids m id) :
    ∀ answer ∈ e.answers config annotations ids,
      (Run.ask id answer.1).on m = (.ok answer.2, m) := by
  obtain ⟨⟨replay, type, htype, hbody⟩, hconfig, hannotations, hcollection, hdiscriminator, hkey,
    hproperties, _⟩ := h
  have hfinds {query : MethodRef} {method : MethodDef}
      (hmethod : (e.modelBodyOf replay type).method? query.name query.descriptor = some method) :
      (m.classOf id).body.method? query.name query.descriptor = some method := hbody ▸ hmethod
  have hinstance : m.isInstance id e.modelName = true := by
    have hself := (m.classOf id).isSubclassOf_self
    rwa [hbody] at hself
  simp only [Entity.answers, List.forall_mem_cons]
  refine ⟨ask_text (hfinds rfl), ask_text (hfinds rfl), ?_⟩
  refine ⟨ask_field (hfinds rfl) (MethodType.parse_text _) hinstance hcollection (m.fits_text _),
    ask_field (hfinds rfl) (MethodType.parse_text _) hinstance hdiscriminator (m.fits_text _),
    ask_field (hfinds rfl) (MethodType.parse_text _) hinstance hkey (m.fits_text _), ?_⟩
  refine ⟨ask_bool (hfinds rfl), ask_bool (hfinds rfl), ask_bool (hfinds rfl),
    ask_bool (hfinds rfl), ?_⟩
  exact ⟨ask_code _ (hfinds rfl) (MethodType.parse_type _) htype (m.fits_type _),
    ask_field (hfinds rfl) (MethodType.parse_list _) hinstance hproperties (m.fits_items _),
    ask_field (hfinds rfl) (MethodType.parse_list _) hinstance hannotations (m.fits_items _),
    ask_field (hfinds rfl) MethodType.parse_config hinstance hconfig (m.fits_config _), nofun⟩

/-- All that a model of an entity answers, with the answers of the models of its properties. -/
def snapshot (e : Entity) (config : MappingConfig) (annotations : List Annotation)
    (properties : List PropertySnapshot) : EntitySnapshot :=
  { name := e.name, simpleName := e.simpleName, collectionName := e.collectionName config
    discriminator := e.discriminator config, discriminatorKey := e.discriminatorKey config
    useDiscriminator := e.policy.useDiscriminator, isAbstract := e.isAbstract
    isInterface := e.isInterface, isEmbedded := e.policy.embedded, type := e.type
    annotations, properties }

/-- A snapshot tells what a description says: all that it says of the entity and of its properties,
in their order, and the annotations that it gives them, completed. -/
def Tells (e : Entity) (registry : AnnotationRegistry) (config : MappingConfig)
    (told : EntitySnapshot) : Prop :=
  ∃ (annotations : List Annotation) (described : List (Property × List Annotation)),
    registry.replayed e.annotations = .ok annotations ∧ e.properties = described.map (·.1) ∧
      (∀ entry ∈ described, registry.replayed entry.1.annotations = .ok entry.2) ∧
      told = e.snapshot config annotations
        (described.map fun entry => entry.1.snapshot e.name entry.2)

/-- The properties that are told of are those of the entity. -/
theorem Tells.properties {told : EntitySnapshot} (h : e.Tells registry config told) :
    told.properties.map (fun p => (p.name, p.loadNames)) =
        e.properties.map (fun p => (p.name, p.loadNames)) ∧
      e.properties.mapM (fun p => registry.replayed p.annotations) =
        .ok (told.properties.map (·.annotations)) := by
  obtain ⟨annotations, described, _, hproperties, hreplayed, rfl⟩ := h
  rw [hproperties]
  constructor
  · simp [Entity.snapshot, Property.snapshot]
  · simp only [Entity.snapshot]
    rw [Checked.mapM_eq_ok, List.forall₂_map_left_iff, List.forall₂_map_right_iff,
      List.forall₂_map_right_iff, List.forall₂_same]
    exact hreplayed

/-- The models of the properties that a generated model answers. -/
theorem ModelledBy.properties_on (h : e.ModelledBy registry config annotations ids m id) :
    (EntityModel.generated id).properties.on m = (.ok (ids.map .generated), m) := by
  have hasked : (Run.ask id EntityQuery.properties).on m = (.ok (.list (ids.map .object)), m) :=
    h.answers (EntityQuery.properties, .list (ids.map .object)) (by simp [Entity.answers])
  have hobjects : (ids.map Value.object).mapM Value.toObject = .ok ids :=
    Checked.mapM_map_ok Value.toObject .object (fun _ => rfl) ids
  refine (on_bind_ok hasked).trans ?_
  simp only [Value.toList, on_lift_bind_ok, hobjects]
  rfl

/-- A search among models is answered if each of them answers what is asked. -/
theorem firstWith_on {query : PropertyModel → Run Bool} {models : List PropertyModel}
    (h : ∀ model ∈ models, ∃ b, (query model).on m = (.ok b, m)) :
    ∃ found, (EntityModel.firstWith query models).on m = (.ok found, m) := by
  induction models with
  | nil => exact ⟨none, rfl⟩
  | cons model models ih =>
    obtain ⟨b, hb⟩ := h model (by simp)
    unfold EntityModel.firstWith
    rw [on_bind_ok hb]
    cases b with
    | true => exact ⟨some model, rfl⟩
    | false => exact ih fun other hother => h other (by simp [hother])

/-- The identity property that a generated model answers. -/
theorem ModelledBy.idProperty_on (h : e.ModelledBy registry config annotations ids m id) :
    ∃ found, (EntityModel.generated id).idProperty?.on m = (.ok found, m) := by
  have hmodels : ∀ model ∈ ids.map PropertyModel.generated,
      ∃ b, model.isId.on m = (.ok b, m) := by
    intro model hmodel
    obtain ⟨id, hid, rfl⟩ := List.mem_map.mp hmodel
    obtain ⟨p, _, as, _, hmodelled⟩ := Checked.forall₂_mem_right h.models hid
    exact ⟨p.flags.id, hmodelled.isId_on⟩
  obtain ⟨found, hfound⟩ := firstWith_on hmodels
  exact ⟨found, (on_bind_ok h.properties_on).trans hfound⟩

/-- The generated model of an entity answers all that its description does, if the models of its
properties do. -/
theorem ModelledBy.snapshot_on (h : e.ModelledBy registry config annotations ids m id)
    {properties : List PropertySnapshot}
    (hproperties : List.Forall₂ (fun id s => (PropertyModel.generated id).snapshot.on m = (.ok s, m))
      ids properties) :
    (EntityModel.generated id).snapshot.on m =
      (.ok (e.snapshot config annotations properties), m) := by
  have hanswers := h.answers
  simp only [Entity.answers, List.forall_mem_cons] at hanswers
  obtain ⟨hname, hsimpleName, hcollectionName, hdiscriminator, hdiscriminatorKey,
    huseDiscriminator, hisAbstract, hisInterface, hisEmbedded, htype, _, hannotations, _, _⟩ :=
    hanswers
  have htext {query : MethodRef} {s : String} (ofEntity : DescribedEntity → String)
      (ofTable : EntityTable → String) (hasked : (Run.ask id query).on m = (.ok (.text s), m)) :
      (EntityModel.text query ofEntity ofTable (.generated id)).on m = (.ok s, m) :=
    on_bind_ok hasked
  have hbool {query : MethodRef} {b : Bool} (ofEntity : Entity → Bool) (ofTable : EntityTable → Bool)
      (hasked : (Run.ask id query).on m = (.ok (.bool b), m)) :
      (EntityModel.flag query ofEntity ofTable (.generated id)).on m = (.ok b, m) :=
    on_bind_ok hasked
  have hmodels : Run.on ((ids.map PropertyModel.generated).mapM PropertyModel.snapshot) m =
      (.ok properties, m) := mapM_on (List.forall₂_map_left_iff.mpr hproperties)
  have hreplayed : (EntityModel.generated id).annotations.on m = (.ok annotations, m) := by
    refine (on_bind_ok hannotations).trans ?_
    rw [annotationsOf_uses]
    rfl
  have hentityType : (EntityModel.generated id).type.on m = (.ok e.type, m) := on_bind_ok htype
  unfold EntityModel.snapshot EntityModel.name EntityModel.simpleName EntityModel.collectionName
    EntityModel.discriminator EntityModel.discriminatorKey EntityModel.useDiscriminator
    EntityModel.isAbstract EntityModel.isInterface EntityModel.isEmbedded
  rw [on_bind_ok h.properties_on, on_bind_ok hmodels, on_bind_ok (htext _ _ hname),
    on_bind_ok (htext _ _ hsimpleName), on_bind_ok (htext _ _ hcollectionName),
    on_bind_ok (htext _ _ hdiscriminator), on_bind_ok (htext _ _ hdiscriminatorKey),
    on_bind_ok (hbool _ _ huseDiscriminator), on_bind_ok (hbool _ _ hisAbstract),
    on_bind_ok (hbool _ _ hisInterface), on_bind_ok (hbool _ _ hisEmbedded),
    on_bind_ok hentityType, on_bind_ok hreplayed]
  rfl

/-- The properties of an entity whose model was made, each with the annotations that its model
answers, and what all of them answer. -/
theorem ModelledBy.described (h : e.ModelledBy registry config annotations ids m id) :
    ∃ described : List (Property × List Annotation), e.properties = described.map (·.1) ∧
      (∀ entry ∈ described, registry.replayed entry.1.annotations = .ok entry.2) ∧
      (EntityModel.generated id).snapshot.on m = (.ok (e.snapshot config annotations
        (described.map fun entry => entry.1.snapshot e.name entry.2)), m) := by
  have hmodels : List.Forall₂ (fun p id => ∃ entry : Property × List Annotation,
      (p = entry.1 ∧ registry.replayed entry.1.annotations = .ok entry.2) ∧
        entry.1.ModelledBy e.name entry.2 m id) e.properties ids :=
    h.models.imp fun p id hmodel => by
      obtain ⟨replayed, hreplayed, hmodel⟩ := hmodel
      exact ⟨(p, replayed), ⟨rfl, hreplayed⟩, hmodel⟩
  obtain ⟨described, hdescribed, hgenerated⟩ := Checked.forall₂_middle hmodels
  refine ⟨described, ?_, ?_, h.snapshot_on ?_⟩
  · rw [← List.forall₂_eq_eq_eq, List.forall₂_map_right_iff]
    exact hdescribed.imp fun _ _ hentry => hentry.1
  · intro entry hentry
    obtain ⟨_, _, _, hreplayed⟩ := Checked.forall₂_mem_right hdescribed hentry
    exact hreplayed
  · rw [List.forall₂_map_right_iff]
    exact hgenerated.imp fun _ _ hentry => hentry.snapshot_on

/-- The model that a description gives answers what the description says. -/
theorem ofEntity_snapshot {described : List (Property × List Annotation)} (m : Machine)
    (hannotations : registry.replayed e.annotations = .ok annotations)
    (hproperties : e.properties = described.map (·.1))
    (hdescribed : ∀ entry ∈ described, registry.replayed entry.1.annotations = .ok entry.2) :
    ∃ model, EntityModel.ofEntity registry config e = .ok model ∧
      model.snapshot.on m = (.ok (e.snapshot config annotations
        (described.map fun entry => entry.1.snapshot e.name entry.2)), m) := by
  have hmodels : e.properties.mapM (PropertyModel.ofProperty registry e.name) =
      .ok (described.map fun entry => .described e.name entry.1 entry.2) := by
    rw [hproperties, Checked.mapM_eq_ok, List.forall₂_map_left_iff, List.forall₂_map_right_iff,
      List.forall₂_same]
    intro entry hentry
    rw [PropertyModel.ofProperty, hdescribed entry hentry]
    rfl
  let model : DescribedEntity :=
    { entity := e
      collectionName := e.collectionName config
      discriminator := e.discriminator config
      discriminatorKey := e.discriminatorKey config
      annotations
      properties := described.map fun entry => .described e.name entry.1 entry.2 }
  refine ⟨.described model, ?_, ?_⟩
  · rw [EntityModel.ofEntity, hannotations]
    simp only [bind, Except.bind, hmodels]
    rfl
  · have hsnapshots : Run.on ((described.map fun entry =>
        PropertyModel.described e.name entry.1 entry.2).mapM PropertyModel.snapshot) m =
        (.ok (described.map fun entry => entry.1.snapshot e.name entry.2), m) := by
      refine mapM_on ?_
      rw [List.forall₂_map_left_iff, List.forall₂_map_right_iff, List.forall₂_same]
      exact fun entry _ => Property.described_snapshot entry.1 e.name entry.2 m
    exact on_bind_ok hsnapshots

end Entity

end EntityForge
