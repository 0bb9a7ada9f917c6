import EntityForge.Model.Entity

/-!
Snapshots: all that a model answers, taken once, so that models of different kinds can be compared.
-/

namespace EntityForge

structure PropertySnapshot where
  name : String
  fullName : String
  mappedName : String
  loadNames : List String
  type : TypeTree
  flags : PropertyFlags
  annotations : List Annotation

structure EntitySnapshot where
  name : String
  simpleName : String
  collectionName : String
  discriminator : String
  discriminatorKey : String
  useDiscriminator : Bool
  isAbstract : Bool
  isInterface : Bool
  isEmbedded : Bool
  type : TypeTree
  annotations : List Annotation
  properties : List PropertySnapshot

def PropertyModel.flags (m : PropertyModel) : Run PropertyFlags := do
  let transient ← m.isTransient
  let constant ← m.isFinal
  let reference ← m.isReference
  let array ← m.isArray
  let map ← m.isMap
  let set ← m.isSet
  let collection ← m.isCollection
  let id ← m.isId
  let version ← m.isVersion
  return { transient, constant, reference, array, map, set, collection, id, version }

def PropertyModel.snapshot (m : PropertyModel) : Run PropertySnapshot := do
  let name ← m.name
  let fullName ← m.fullName
  let mappedName ← m.mappedName
  let loadNames ← m.loadNames
  let type ← m.type
  let flags ← m.flags
  let annotations ← m.annotations
  return { name, fullName, mappedName, loadNames, type, flags, annotations }

/-- Asks an entity model for everything, its properties first. -/
def EntityModel.snapshot (m : EntityModel) : Run EntitySnapshot := do
  let properties ← (← m.properties).mapM (·.snapshot)
  let name ← m.name
  let simpleName ← m.simpleName
  let collectionName ← m.collectionName
  let discriminator ← m.discriminator
  let discriminatorKey ← m.discriminatorKey
  let useDiscriminator ← m.useDiscriminator
  let isAbstract ← m.isAbstract
  let isInterface ← m.isInterface
  let isEmbedded ← m.isEmbedded
  let type ← m.type
  let annotations ← m.annotations
  return { name, simpleName, collectionName, discriminator, discriminatorKey, useDiscriminator,
           isAbstract, isInterface, isEmbedded, type, annotations, properties }

end EntityForge
