import EntityForge.Generated.Replay

/-!
Property model classes. The constructor replays the annotations of the property and makes its
accessor; every other method answers what was known when the class was generated.
-/

namespace EntityForge

namespace Property

def modelName (p : Property) (entity : String) : String := GeneratedName.propertyModel entity p.name

def textMethods (p : Property) (entity : String) : List MethodDef :=
  [.answersText PropertyQuery.name p.name,
   .answersText PropertyQuery.fullName (p.fullName entity),
   .answersText PropertyQuery.mappedName p.mappedName]

def flagMethods (p : Property) : List MethodDef :=
  [.answersBool PropertyQuery.isArray p.flags.array,
   .answersBool PropertyQuery.isMap p.flags.map,
   .answersBool PropertyQuery.isSet p.flags.set,
   .answersBool PropertyQuery.isCollection p.flags.collection,
   .answersBool PropertyQuery.isFinal p.flags.constant,
   .answersBool PropertyQuery.isTransient p.flags.transient,
   .answersBool PropertyQuery.isReference p.flags.reference,
   .answersBool PropertyQuery.isId p.flags.id,
   .answersBool PropertyQuery.isVersion p.flags.version]

def modelFields : List FieldDef :=
  [⟨annotationsField, Descriptor.list, AccessFlag.isPrivate, none⟩,
   ⟨PropertyQuery.accessorField, Descriptor.accessor,
    AccessFlag.isPrivate ||| AccessFlag.isFinal, none⟩]

def accessorCode (p : Property) (entity : String) : Code :=
  [Code.loadThis, .new (GeneratedName.accessor entity p.name) Construction.plain,
   .putField (p.modelName entity) PropertyQuery.accessorField, .returnVoid]

def modelBody (registry : AnnotationRegistry) (entity : String) (p : Property) :
    Except GenerationError ClassBody := do
  let className := p.modelName entity
  let replayed ← (registry.replayable p.annotations).mapError .failure
  let replay ← Replay.code entity className replayed
  let loadNames ← (Code.textList p.loadNames).mapError .failure
  let type ← (Code.typeData p.type).mapError .failure
  return {
    name := className
    kind := .propertyModel
    flags := AccessorShape.flags
    superName := some ClassName.object
    interfaces := [ClassName.propertyModel]
    fields := modelFields
    methods :=
      AccessorShape.constructor Construction.plain (replay ++ p.accessorCode entity) ::
        p.textMethods entity ++ p.flagMethods ++
          [.answersCode PropertyQuery.loadNames loadNames,
           .answersCode PropertyQuery.typeData type,
           .answersField PropertyQuery.accessor className PropertyQuery.accessorField,
           .answersField PropertyQuery.annotations className annotationsField] }

def modelClass (registry : AnnotationRegistry) (entity : String) (p : Property) :
    Except GenerationError ClassRecord := do
  (← modelBody registry entity p).record

end Property

end EntityForge
