import EntityForge.Generated.Replay

/-!
Entity model classes. Names that the entity sets itself are constants; all others are computed in
the constructor from the configuration that it is given.
-/

namespace EntityForge

namespace Entity

def modelName (e : Entity) : String := GeneratedName.entityModel e.name

def modelFields : List FieldDef :=
  let once := AccessFlag.isPrivate ||| AccessFlag.isFinal
  [⟨EntityQuery.configField, Descriptor.config, once, none⟩,
   ⟨annotationsField, Descriptor.list, AccessFlag.isPrivate, none⟩,
   ⟨EntityQuery.collectionNameField, Descriptor.string, once, none⟩,
   ⟨EntityQuery.discriminatorField, Descriptor.string, once, none⟩,
   ⟨EntityQuery.discriminatorKeyField, Descriptor.string, once, none⟩,
   ⟨EntityQuery.propertiesField, Descriptor.list, once, none⟩]

/-- Stores a text that is set, or else what the configuration makes of the operands. -/
def namingCode (className field : String) (set : Option String) (operands : Code)
    (otherwise : Intrinsic) : Code :=
  let value :=
    match set with
    | some s => [Code.loadText s]
    | none => .load 1 :: operands ++ [.intrinsic otherwise]
  Code.loadThis :: value ++ [.putField className field]

/-- Makes the models of the properties. -/
def propertiesCode (e : Entity) : Code :=
  let made := e.properties.map fun p =>
    Instruction.new (GeneratedName.propertyModel e.name p.name) Construction.plain
  Code.loadThis :: made ++
    [.newList (UInt16.ofNat e.properties.length), .putField e.modelName EntityQuery.propertiesField,
     .returnVoid]

/-- The constructor behind the replay of the annotations. -/
def namesCode (e : Entity) : Code :=
  namingCode e.modelName EntityQuery.collectionNameField e.policy.collection
      [Code.loadText e.simpleName] .collectionName ++
    namingCode e.modelName EntityQuery.discriminatorField e.policy.discriminator
      [Code.loadText e.name] .discriminator ++
    namingCode e.modelName EntityQuery.discriminatorKeyField e.policy.discriminatorKey []
      .discriminatorKey

/-- The methods that answer what the constructor stored. -/
def fieldMethods (className : String) : List MethodDef :=
  [.answersField EntityQuery.collectionName className EntityQuery.collectionNameField,
   .answersField EntityQuery.discriminator className EntityQuery.discriminatorField,
   .answersField EntityQuery.discriminatorKey className EntityQuery.discriminatorKeyField,
   .answersField EntityQuery.properties className EntityQuery.propertiesField,
   .answersField EntityQuery.annotations className annotationsField,
   .answersField EntityQuery.config className EntityQuery.configField]

def flagMethods (e : Entity) : List MethodDef :=
  [.answersBool EntityQuery.useDiscriminator e.policy.useDiscriminator,
   .answersBool EntityQuery.isAbstract e.isAbstract,
   .answersBool EntityQuery.isInterface e.isInterface,
   .answersBool EntityQuery.isEmbedded e.policy.embedded]

def modelBody (registry : AnnotationRegistry) (e : Entity) : Except GenerationError ClassBody := do
  let className := e.modelName
  let replayed ← (registry.replayable e.annotations).mapError .failure
  if 65535 < e.properties.length then throw (.unsupported e.name .tooManyProperties)
  let replay ← Replay.code e.name className replayed
  let type ← (Code.typeData e.type).mapError .failure
  let storeConfig : Code :=
    [Code.loadThis, .load 1, .putField className EntityQuery.configField]
  return {
    name := className
    kind := .entityModel
    flags := AccessorShape.flags
    superName := some ClassName.object
    interfaces := [ClassName.entityModel]
    fields := modelFields
    methods :=
      [AccessorShape.constructor Construction.fromConfig
        (storeConfig ++ replay ++ e.namesCode ++ e.propertiesCode),
       .answersText EntityQuery.name e.name,
       .answersText EntityQuery.simpleName e.simpleName,
       .answersCode EntityQuery.type type] ++ fieldMethods className ++ e.flagMethods }

def modelClass (registry : AnnotationRegistry) (e : Entity) :
    Except GenerationError ClassRecord := do
  (← modelBody registry e).record

end Entity

end EntityForge
