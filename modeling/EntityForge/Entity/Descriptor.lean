import EntityForge.Annotation.Basic
import EntityForge.Mapping.Config
import EntityForge.Text.FaultTree
import EntityForge.Type.Tree

/-!
Descriptors of entities and their properties: the outcome of discovery and the input of generation.
-/

namespace EntityForge

def idFieldName : String := "_id"

structure MethodRef where
  name : String
  descriptor : String
  deriving DecidableEq

/-- The name followed directly by the descriptor. -/
def MethodRef.display (m : MethodRef) : String := m.name ++ m.descriptor

inductive PropertyAccess where
  | field
  | method (getter : MethodRef) (setter : Option MethodRef)
  deriving DecidableEq

namespace PropertyAccess

/-- Whether the value is stored in a field of the same name. -/
def isField : PropertyAccess → Bool
  | field => true
  | method _ _ => false

/-- Whether there is a getter and no setter. -/
def isReadOnly : PropertyAccess → Bool
  | method _ none => true
  | _ => false

end PropertyAccess

structure PropertyFlags where
  transient : Bool := false
  constant : Bool := false
  reference : Bool := false
  array : Bool := false
  map : Bool := false
  set : Bool := false
  collection : Bool := false
  id : Bool := false
  version : Bool := false
  deriving DecidableEq

def PropertyFlags.isMultiple (f : PropertyFlags) : Bool := f.array || f.map || f.collection

structure Property where
  name : String
  mappedName : String
  /-- Further document names accepted on load. -/
  loadNames : List String
  type : TypeTree
  access : PropertyAccess
  annotations : List Annotation
  flags : PropertyFlags

namespace Property

/-- The property's name behind that of its entity. -/
def fullName (p : Property) (entity : String) : String := entity ++ "#" ++ p.name

def annotation? (p : Property) (typeName : String) : Option Annotation :=
  Annotations.find? p.annotations typeName

end Property

/-- The policy written on the entity itself. What is not set follows the configuration. -/
structure EntityPolicy where
  collection : Option String := none
  discriminator : Option String := none
  discriminatorKey : Option String := none
  useDiscriminator : Bool := true
  embedded : Bool := false
  deriving DecidableEq

/-- Reads the policy off the annotations of an entity. -/
def EntityPolicy.ofAnnotations (annotations : List Annotation) : EntityPolicy :=
  let embedded := (Annotations.find? annotations AnnotationNames.embedded).isSome
  match Annotations.find? annotations AnnotationNames.entity with
  | none => { embedded }
  | some a =>
    { collection := a.explicitText? "value"
      discriminator := a.explicitText? "discriminator"
      discriminatorKey := a.explicitText? "discriminatorKey"
      useDiscriminator := (a.bool? "useDiscriminator").getD true
      embedded }

structure Entity where
  name : String
  simpleName : String
  package : String
  properties : List Property
  annotations : List Annotation
  isAbstract : Bool
  isInterface : Bool
  policy : EntityPolicy

namespace Entity

def property? (e : Entity) (name : String) : Option Property :=
  e.properties.find? fun p => p.name = name

def idProperty? (e : Entity) : Option Property := e.properties.find? fun p => p.flags.id

def collectionName (e : Entity) (config : MappingConfig) : String :=
  e.policy.collection.getD (config.collectionName e.simpleName)

def discriminator (e : Entity) (config : MappingConfig) : String :=
  e.policy.discriminator.getD (config.discriminator e.name)

def discriminatorKey (e : Entity) (config : MappingConfig) : String :=
  e.policy.discriminatorKey.getD config.discriminatorKey

def type (e : Entity) : TypeTree := .ofClass e.name

end Entity

end EntityForge
