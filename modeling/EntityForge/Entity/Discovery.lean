import EntityForge.Entity.Validation
import EntityForge.Generated.Error
import EntityForge.Generated.Names
import EntityForge.Metadata.Class
import EntityForge.Type.Container
import EntityForge.Type.Signature

/-!
Discovery: which members of a class are mapped properties, and how each of them is mapped. Fields
come first in declaration order, then getters. Fields qualify by convention unless the policy asks
for annotations; methods qualify by annotation only.
-/

namespace EntityForge

/-- The property that a method reads by its name, if it has the form of a getter. -/
def MethodMeta.getterProperty? (m : MethodMeta) : Option String :=
  let cs := m.descriptor.toList
  if ['(', ')'].isPrefixOf cs && !([')', 'V'].isSuffixOf cs) then
    let suffix? :=
      match BeanName.suffix? "get" m.name with
      | some suffix => some suffix
      | none => if m.descriptor = "()Z" then BeanName.suffix? "is" m.name else none
    suffix?.bind fun suffix =>
      match suffix.toList with
      | [] => none
      | c :: _ => if Text.isUppercase c then some (BeanName.decapitalize suffix) else none
  else none

/-- The erased result of a method: what follows the parameters in its descriptor. -/
def MethodMeta.returned (m : MethodMeta) : String :=
  String.ofList ((m.descriptor.toList.dropWhile (· ≠ ')')).drop 1)

/-- The setter of a property: it takes exactly what the getter returns. -/
def ClassMeta.setter? (c : ClassMeta) (property returned : String) : Option MethodRef :=
  let name := "set" ++ BeanName.capitalize property
  let descriptor := "(" ++ returned ++ ")V"
  (c.methods.find? fun m =>
    m.name = name && m.descriptor = descriptor && !m.has AccessFlag.isStatic).map
      fun m => ⟨m.name, m.descriptor⟩

namespace MappingConfig

/-- Whether one of some annotations keeps a member from being stored. -/
def marksTransient (c : MappingConfig) (annotations : List Annotation) : Bool :=
  annotations.any fun a => c.isTransientAnnotation a.typeName

def marksProperty (c : MappingConfig) (annotations : List Annotation) : Bool :=
  annotations.any fun a => c.isPropertyAnnotation a.typeName

/-- The flags of members that are never properties. -/
def skippedFlags : UInt16 :=
  AccessFlag.isStatic ||| AccessFlag.isSynthetic ||| AccessFlag.isBridge ||| AccessFlag.isTransient

/-- Whether a field is a property. -/
def admitsField (c : MappingConfig) (f : FieldMeta) : Bool :=
  f.flags &&& skippedFlags = 0 && !c.marksTransient f.annotations &&
    (!c.isAnnotatedMode || c.marksProperty f.annotations)

def admitsMethod (c : MappingConfig) (m : MethodMeta) : Bool :=
  c.isAnnotatedMode && m.flags &&& skippedFlags = 0 && !c.marksTransient m.annotations &&
    c.marksProperty m.annotations

end MappingConfig

namespace Property

/-- The annotations whose value names the property in documents. -/
def namingAnnotations : List String :=
  [AnnotationNames.property, AnnotationNames.reference, AnnotationNames.version]

/-- The document name that annotations give explicitly. -/
def explicitName? (annotations : List Annotation) : Option String :=
  annotations.findSome? fun a =>
    if namingAnnotations.contains a.typeName then a.explicitText? "value" else none

/-- The further document names that annotations give. -/
def alsoLoaded (annotations : List Annotation) : List String :=
  (annotations.filter fun a => a.typeName = AnnotationNames.alsoLoad).flatMap (·.texts "value")

def describe (config : MappingConfig) (name : String) (type : TypeTree) (access : PropertyAccess)
    (annotations : List Annotation) (constant : Bool) : Property :=
  let has (typeName : String) := annotations.any fun a => a.typeName = typeName
  let id := has AnnotationNames.id
  let mappedName :=
    if id then idFieldName else (explicitName? annotations).getD (config.propertyName name)
  let array := type.isArray
  { name, mappedName, type, access, annotations
    loadNames := (alsoLoaded annotations).filter (· ≠ mappedName)
    flags :=
      { transient := false
        constant
        reference := has AnnotationNames.reference
        array
        map := !array && Container.isMap type.raw
        set := !array && Container.isSet type.raw
        collection := !array && Container.isCollection type.raw
        id
        version := has AnnotationNames.version } }

def ofField (config : MappingConfig) (entity : String) (f : FieldMeta) :
    Except GenerationError Property := do
  let type ← (Signature.parseType f.typeSignature).mapError
    (.signature entity f.name f.typeSignature)
  return describe config f.name type .field f.annotations (f.has AccessFlag.isFinal)

/-- The property of a getter. Without a setter it is written once. -/
def ofGetter (config : MappingConfig) (c : ClassMeta) (m : MethodMeta) :
    Except GenerationError Property := do
  match m.getterProperty? with
  | none => throw (.unsupported c.name (.notAGetter m.name m.descriptor))
  | some name =>
    let type ← (MethodType.parse m.typeSignature).mapError
      (.signature c.name name m.typeSignature)
    match type.result with
    | none => throw (.unsupported c.name (.voidGetter m.name))
    | some result =>
      let setter := c.setter? name m.returned
      return describe config name result (.method ⟨m.name, m.descriptor⟩ setter) m.annotations
        setter.isNone

end Property

namespace Entity

/-- Adds the property of a getter to those before it, none of which may have its name. -/
def addGetter (config : MappingConfig) (c : ClassMeta) (known : List Property) (m : MethodMeta) :
    Except GenerationError (List Property) := do
  let p ← Property.ofGetter config c m
  if known.any fun q => q.name = p.name then throw (.unsupported c.name (.declaredTwice p.name))
  else return known ++ [p]

/-- The entity that a class is under a policy. -/
def discover (config : MappingConfig) (c : ClassMeta) : Except GenerationError Entity := do
  let fields ← (c.fields.filter config.admitsField).mapM (Property.ofField config c.name)
  let properties ← (c.methods.filter config.admitsMethod).foldlM (addGetter config c) fields
  return {
    name := c.name
    simpleName := c.simpleName
    package := c.package
    properties
    annotations := c.annotations
    isAbstract := c.isAbstract
    isInterface := c.isInterface
    policy := .ofAnnotations c.annotations }

/-- The entity that a class is, if it has no fault. -/
def ofClass (config : MappingConfig) (c : ClassMeta) : Except GenerationError Entity := do
  let e ← discover config c
  e.validate.mapError (.invalid e.name)
  return e

end Entity

end EntityForge
