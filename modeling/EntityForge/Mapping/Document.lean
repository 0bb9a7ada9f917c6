import EntityForge.Json.Access
import EntityForge.Mapping.Config

/-!
Mapping policies as documents.
-/

namespace EntityForge.MappingConfig

def toJson (c : MappingConfig) : Json :=
  .object [("discriminator", .text c.discriminatorRule.key),
    ("discriminator_key", .text c.discriminatorKey),
    ("collection_naming", .text c.collectionNaming.key),
    ("property_naming", .text c.propertyNaming.key),
    ("property_annotations", .ofTexts c.propertyAnnotations),
    ("transient_annotations", .ofTexts c.transientAnnotations)]

/-- A policy with everything that it says about one class name. -/
def summary (c : MappingConfig) (className : String) : Json :=
  let simple := Qualified.simpleName className
  .object [("config", c.toJson), ("collection", .text (c.collectionName simple)),
    ("property", .text (c.propertyName simple)),
    ("discriminator", .text (c.discriminator className)),
    ("discriminator_key", .text c.discriminatorKey), ("annotated_mode", .bool c.isAnnotatedMode),
    ("is_property_annotation", .bool (c.isPropertyAnnotation className)),
    ("is_transient_annotation", .bool (c.isTransientAnnotation className))]

/-- Reads a policy; what is missing has its default. -/
def ofJson? (doc : Json) : Option MappingConfig := do
  let base : MappingConfig := {}
  let naming (d : Json) := d.text?.bind NamingStrategy.ofKey?
  let texts (d : Json) := d.elements?.bind (·.mapM Json.text?)
  some {
    discriminatorRule := ← doc.defaulted? "discriminator" base.discriminatorRule fun d =>
      d.text?.bind DiscriminatorRule.ofKey?
    discriminatorKey := ← doc.defaulted? "discriminator_key" base.discriminatorKey Json.text?
    collectionNaming := ← doc.defaulted? "collection_naming" base.collectionNaming naming
    propertyNaming := ← doc.defaulted? "property_naming" base.propertyNaming naming
    propertyAnnotations := ←
      doc.defaulted? "property_annotations" base.propertyAnnotations texts
    transientAnnotations := ←
      doc.defaulted? "transient_annotations" base.transientAnnotations texts }

end EntityForge.MappingConfig
