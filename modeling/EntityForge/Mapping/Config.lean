import EntityForge.Annotation.Basic
import EntityForge.Text.Qualified
import EntityForge.Text.Words
import EntityForge.Toml.Document

/-!
The mapping policy: how collections, properties and discriminators are named and which annotations
mark properties. It is read once, from a document whose unknown keys are ignored.
-/

namespace EntityForge

inductive NamingStrategy where
  | camelCase | identity | kebabCase | lowerCase | pascalCase | snakeCase
  deriving DecidableEq

namespace NamingStrategy

def apply : NamingStrategy → String → String
  | camelCase, name => Text.camelCase name
  | identity, name => name
  | kebabCase, name => Text.joinedCase "-" name
  | lowerCase, name => Text.joinedCase "" name
  | pascalCase, name => Text.pascalCase name
  | snakeCase, name => Text.joinedCase "_" name

def all : List NamingStrategy :=
  [camelCase, identity, kebabCase, lowerCase, pascalCase, snakeCase]

def key : NamingStrategy → String
  | camelCase => "camel_case"
  | identity => "identity"
  | kebabCase => "kebab_case"
  | lowerCase => "lower_case"
  | pascalCase => "pascal_case"
  | snakeCase => "snake_case"

def ofKey? (key : String) : Option NamingStrategy := all.find? fun s => s.key = key

end NamingStrategy

inductive DiscriminatorRule where
  | className | lowerClassName | lowerSimpleName | simpleName
  deriving DecidableEq

namespace DiscriminatorRule

def apply : DiscriminatorRule → String → String
  | className, name => name
  | lowerClassName, name => Text.lowercase name
  | lowerSimpleName, name => Text.lowercase (Qualified.simpleName name)
  | simpleName, name => Qualified.simpleName name

def all : List DiscriminatorRule := [className, lowerClassName, lowerSimpleName, simpleName]

def key : DiscriminatorRule → String
  | className => "class_name"
  | lowerClassName => "lower_class_name"
  | lowerSimpleName => "lower_simple_name"
  | simpleName => "simple_name"

def ofKey? (key : String) : Option DiscriminatorRule := all.find? fun r => r.key = key

end DiscriminatorRule

/-- The document key that stores the discriminator unless another is set. -/
def defaultDiscriminatorKey : String := "_t"

structure MappingConfig where
  discriminatorRule : DiscriminatorRule := .simpleName
  discriminatorKey : String := defaultDiscriminatorKey
  collectionNaming : NamingStrategy := .camelCase
  propertyNaming : NamingStrategy := .identity
  /-- Annotations that make a member a property; with none, every field is one. -/
  propertyAnnotations : List String := []
  transientAnnotations : List String :=
    [AnnotationNames.transient, AnnotationNames.notSaved, AnnotationNames.beanTransient]
  deriving DecidableEq

namespace MappingConfig

/-- The policy under which only members with the library's own annotations are properties. -/
def annotated : MappingConfig :=
  { propertyAnnotations := [AnnotationNames.id, AnnotationNames.property,
      AnnotationNames.reference, AnnotationNames.version] }

def collectionName (c : MappingConfig) (simpleName : String) : String :=
  c.collectionNaming.apply simpleName

def propertyName (c : MappingConfig) (name : String) : String := c.propertyNaming.apply name

def discriminator (c : MappingConfig) (name : String) : String := c.discriminatorRule.apply name

def isAnnotatedMode (c : MappingConfig) : Bool := !c.propertyAnnotations.isEmpty

def isPropertyAnnotation (c : MappingConfig) (typeName : String) : Bool :=
  c.propertyAnnotations.contains typeName

/-- Whether an annotation keeps a member from being stored. -/
def isTransientAnnotation (c : MappingConfig) (typeName : String) : Bool :=
  c.transientAnnotations.contains typeName

/-- Reads one setting with `read?`, keeping the default when the key is absent. -/
def setting? {α : Type} (entries : Toml.Entries) (key : String) (absent : α)
    (read? : Toml.Node → Option α) : Option α :=
  match entries.get? key with
  | none => some absent
  | some node => read? node

def text? : Toml.Node → Option String
  | .value (.text s) => some s
  | _ => none

def textList? : Toml.Node → Option (List String)
  | .value (.array items) => items.mapM fun item => text? (.value item)
  | _ => none

def read? (s : String) : Option MappingConfig := do
  let doc ← Toml.read? s
  let base : MappingConfig := {}
  let naming (node : Toml.Node) := node.choice?.bind NamingStrategy.ofKey?
  let rule (node : Toml.Node) := node.choice?.bind DiscriminatorRule.ofKey?
  let discriminatorRule ← setting? doc "discriminator" base.discriminatorRule rule
  let discriminatorKey ← setting? doc "discriminator_key" base.discriminatorKey text?
  let collectionNaming ← setting? doc "collection_naming" base.collectionNaming naming
  let propertyNaming ← setting? doc "property_naming" base.propertyNaming naming
  let propertyAnnotations ←
    setting? doc "property_annotations" base.propertyAnnotations textList?
  let transientAnnotations ←
    setting? doc "transient_annotations" base.transientAnnotations textList?
  some { discriminatorRule, discriminatorKey, collectionNaming, propertyNaming,
         propertyAnnotations, transientAnnotations }

end MappingConfig

end EntityForge
