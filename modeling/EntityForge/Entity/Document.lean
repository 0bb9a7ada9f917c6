import EntityForge.Annotation.Document
import EntityForge.Annotation.Printer
import EntityForge.Entity.Descriptor
import EntityForge.Type.Document

/-!
Entities and properties as documents. How doubles inside annotations are written is up to the
caller.
-/

namespace EntityForge

namespace MethodRef

def toJson (m : MethodRef) : Json :=
  .object [("name", .text m.name), ("descriptor", .text m.descriptor)]

def ofJson? (doc : Json) : Option MethodRef := do
  some ⟨← doc.required? "name" Json.text?, ← doc.required? "descriptor" Json.text?⟩

end MethodRef

namespace PropertyAccess

def toJson : PropertyAccess → Json
  | field => .text "Field"
  | method getter setter =>
    .object [("Method", .object
      [("getter", getter.toJson), ("setter", .ofOption MethodRef.toJson setter)])]

def ofJson? : Json → Option PropertyAccess
  | .text "Field" => some field
  | doc => do
    let doc ← doc.field? "Method"
    some (method (← doc.required? "getter" MethodRef.ofJson?)
      (← doc.optional? "setter" MethodRef.ofJson?))

end PropertyAccess

namespace PropertyFlags

def toJson (f : PropertyFlags) : Json :=
  .object [("transient", .bool f.transient), ("final", .bool f.constant),
    ("reference", .bool f.reference), ("array", .bool f.array), ("map", .bool f.map),
    ("set", .bool f.set), ("collection", .bool f.collection), ("id", .bool f.id),
    ("version", .bool f.version)]

/-- Reads flags, each under a name of its own. -/
def ofJson? (key : String → String) (doc : Json) : Option PropertyFlags := do
  some {
    transient := ← doc.flag? (key "transient")
    constant := ← doc.flag? (key "final")
    reference := ← doc.flag? (key "reference")
    array := ← doc.flag? (key "array")
    map := ← doc.flag? (key "map")
    set := ← doc.flag? (key "set")
    collection := ← doc.flag? (key "collection")
    id := ← doc.flag? (key "id")
    version := ← doc.flag? (key "version") }

end PropertyFlags

namespace Property

def toJson (double : Number.Binary64 → Json) (p : Property) : Json :=
  .object [("name", .text p.name), ("mapped_name", .text p.mappedName),
    ("load_names", .ofTexts p.loadNames), ("type_descriptor", p.type.toJson),
    ("access", p.access.toJson), ("annotations", .ofList (·.toJson double) p.annotations),
    ("flags", p.flags.toJson)]

def ofJson? (doc : Json) : Option Property := do
  some {
    name := ← doc.required? "name" Json.text?
    mappedName := ← doc.required? "mapped_name" Json.text?
    loadNames := ← doc.list? "load_names" Json.text?
    type := ← doc.required? "type_descriptor" TypeTree.read?
    access := ← doc.required? "access" PropertyAccess.ofJson?
    annotations := ← doc.list? "annotations" Annotation.ofJson?
    flags := ← doc.required? "flags" (PropertyFlags.ofJson? fun name => name) }

end Property

namespace EntityPolicy

def toJson (p : EntityPolicy) : Json :=
  .object [("collection", .ofText? p.collection), ("discriminator", .ofText? p.discriminator),
    ("discriminator_key", .ofText? p.discriminatorKey),
    ("use_discriminator", .bool p.useDiscriminator), ("embedded", .bool p.embedded)]

def ofJson? (doc : Json) : Option EntityPolicy := do
  some {
    collection := ← doc.optional? "collection" Json.text?
    discriminator := ← doc.optional? "discriminator" Json.text?
    discriminatorKey := ← doc.optional? "discriminator_key" Json.text?
    useDiscriminator := ← doc.flag? "use_discriminator"
    embedded := ← doc.flag? "embedded" }

end EntityPolicy

namespace Entity

def ofJson? (doc : Json) : Option Entity := do
  some {
    name := ← doc.required? "name" Json.text?
    simpleName := ← doc.required? "simple_name" Json.text?
    package := ← doc.required? "package" Json.text?
    properties := ← doc.list? "properties" Property.ofJson?
    annotations := ← doc.list? "annotations" Annotation.ofJson?
    isAbstract := ← doc.flag? "is_abstract"
    isInterface := ← doc.flag? "is_interface"
    policy := ← doc.required? "entity" EntityPolicy.ofJson? }

def propertySummary (double : Number.Binary64 → Json) (e : Entity) (p : Property) : Json :=
  let access : Json :=
    match p.access with
    | .field => .null
    | .method getter setter =>
      .array [.text getter.display, .ofOption (fun m => .text m.display) setter]
  .object [("descriptor", p.toJson double), ("full_name", .text (p.fullName e.name)),
    ("multiple", .bool p.flags.isMultiple), ("read_only", .bool p.access.isReadOnly),
    ("field", .bool p.access.isField), ("access", access)]

/-- An entity with everything that follows from it under a mapping policy. -/
def summary (double : Number.Binary64 → Json) (config : MappingConfig) (e : Entity) : Json :=
  .object [("name", .text e.name), ("simple_name", .text e.simpleName),
    ("package", .text e.package), ("abstract", .bool e.isAbstract),
    ("interface", .bool e.isInterface), ("entity", e.policy.toJson),
    ("annotations", .ofList (·.toJson double) e.annotations),
    ("collection", .text (e.collectionName config)),
    ("discriminator", .text (e.discriminator config)),
    ("discriminator_key", .text (e.discriminatorKey config)), ("type", .text e.type.signature),
    ("id", .ofOption (fun p => .text p.name) e.idProperty?),
    ("properties", .ofList (e.propertySummary double) e.properties)]

end Entity

end EntityForge
