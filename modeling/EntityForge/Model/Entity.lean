import EntityForge.Model.Property

/-!
Entity models: the queries of an entity, answered by a generated model, from a descriptor, or from a
table.
-/

namespace EntityForge

structure DescribedEntity where
  entity : Entity
  collectionName : String
  discriminator : String
  discriminatorKey : String
  annotations : List Annotation
  properties : List PropertyModel

inductive EntityModel where
  | generated (object : Nat)
  | described (entity : DescribedEntity)
  | table (table : EntityTable)

namespace EntityModel

def ofEntity (registry : AnnotationRegistry) (config : MappingConfig) (e : Entity) :
    Except Failure EntityModel := do
  let annotations ← registry.replayed e.annotations
  let properties ← e.properties.mapM (PropertyModel.ofProperty registry e.name)
  return .described
    { entity := e
      collectionName := e.collectionName config
      discriminator := e.discriminator config
      discriminatorKey := e.discriminatorKey config
      annotations, properties }

/-- A new object of a generated model class, made for a policy. -/
def ofClass (className : String) (config : MappingConfig) : Run EntityModel :=
  return .generated (← Run.instantiate className Construction.fromConfig [.config config])

def text (query : MethodRef) (ofEntity : DescribedEntity → String)
    (ofTable : EntityTable → String) : EntityModel → Run String
  | generated object => do (← Run.ask object query).toText
  | described e => return ofEntity e
  | table t => return ofTable t

def flag (query : MethodRef) (ofEntity : Entity → Bool) (ofTable : EntityTable → Bool) :
    EntityModel → Run Bool
  | generated object => do (← Run.ask object query).toBool
  | described e => return ofEntity e.entity
  | table t => return ofTable t

def name : EntityModel → Run String := text EntityQuery.name (·.entity.name) (·.name)

def simpleName : EntityModel → Run String :=
  text EntityQuery.simpleName (·.entity.simpleName) (·.simpleName)

def collectionName : EntityModel → Run String :=
  text EntityQuery.collectionName (·.collectionName) (·.collectionName)

def discriminator : EntityModel → Run String :=
  text EntityQuery.discriminator (·.discriminator) (·.discriminator)

def discriminatorKey : EntityModel → Run String :=
  text EntityQuery.discriminatorKey (·.discriminatorKey) (·.discriminatorKey)

def useDiscriminator : EntityModel → Run Bool :=
  flag EntityQuery.useDiscriminator (·.policy.useDiscriminator) (·.useDiscriminator)

def isAbstract : EntityModel → Run Bool :=
  flag EntityQuery.isAbstract (·.isAbstract) (·.isAbstract)

def isInterface : EntityModel → Run Bool :=
  flag EntityQuery.isInterface (·.isInterface) (·.isInterface)

/-- Whether the entity is stored inside others only. -/
def isEmbedded : EntityModel → Run Bool :=
  flag EntityQuery.isEmbedded (·.policy.embedded) (·.isEmbedded)

def type : EntityModel → Run TypeTree
  | generated object => do (← Run.ask object EntityQuery.type).toType
  | described e => return e.entity.type
  | table t => return .ofClass t.name

def annotations : EntityModel → Run (List Annotation)
  | generated object => do
    PropertyModel.annotationsOf (← Run.ask object EntityQuery.annotations)
  | described e => return e.annotations
  | table t => t.annotations

def properties : EntityModel → Run (List PropertyModel)
  | generated object => do
    let items ← (← Run.ask object EntityQuery.properties).toList
    let objects ← (items.mapM Value.toObject : Except Failure (List Nat))
    return objects.map .generated
  | described e => return e.properties
  | table t => return t.properties.map .row

/-- The first of some property models of which a query holds. -/
def firstWith (query : PropertyModel → Run Bool) : List PropertyModel → Run (Option PropertyModel)
  | [] => return none
  | p :: rest => do
    if ← query p then return some p else firstWith query rest

def property? (m : EntityModel) (name : String) : Run (Option PropertyModel) := do
  firstWith (fun p => return (← p.name) = name) (← m.properties)

def idProperty? (m : EntityModel) : Run (Option PropertyModel) := do
  firstWith (·.isId) (← m.properties)

end EntityModel

end EntityForge
