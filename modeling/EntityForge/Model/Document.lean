import EntityForge.Entity.Document
import EntityForge.Model.Snapshot

/-!
Snapshots and tables as documents. How doubles inside annotations are written is up to the caller.
-/

namespace EntityForge

def PropertySnapshot.toJson (double : Number.Binary64 → Json) (s : PropertySnapshot) : Json :=
  .object [("name", .text s.name), ("full_name", .text s.fullName),
    ("mapped_name", .text s.mappedName), ("load_names", .ofTexts s.loadNames),
    ("type_descriptor", s.type.toJson), ("flags", s.flags.toJson),
    ("annotations", .ofList (·.toJson double) s.annotations)]

def EntitySnapshot.toJson (double : Number.Binary64 → Json) (s : EntitySnapshot) : Json :=
  .object [("name", .text s.name), ("simple_name", .text s.simpleName),
    ("collection_name", .text s.collectionName), ("discriminator", .text s.discriminator),
    ("discriminator_key", .text s.discriminatorKey),
    ("use_discriminator", .bool s.useDiscriminator), ("is_abstract", .bool s.isAbstract),
    ("is_interface", .bool s.isInterface), ("is_embedded", .bool s.isEmbedded),
    ("type_descriptor", s.type.toJson),
    ("annotations", .ofList (·.toJson double) s.annotations),
    ("properties", .ofList (PropertySnapshot.toJson double) s.properties)]

def PropertyRow.ofJson? (doc : Json) : Option PropertyRow := do
  some {
    name := ← doc.required? "name" Json.text?
    fullName := ← doc.required? "full_name" Json.text?
    mappedName := ← doc.required? "mapped_name" Json.text?
    loadNames := ← doc.list? "load_names" Json.text?
    typeSignature := ← doc.required? "type_signature" Json.text?
    accessorClass := ← doc.required? "accessor_class" Json.text?
    flags := ← PropertyFlags.ofJson? ("is_" ++ ·) doc
    annotationText := ← doc.required? "annotations_json" Json.text? }

def EntityTable.ofJson? (doc : Json) : Option EntityTable := do
  some {
    name := ← doc.required? "name" Json.text?
    simpleName := ← doc.required? "simple_name" Json.text?
    collectionName := ← doc.required? "collection_name" Json.text?
    discriminator := ← doc.required? "discriminator" Json.text?
    discriminatorKey := ← doc.required? "discriminator_key" Json.text?
    useDiscriminator := ← doc.flag? "use_discriminator"
    isAbstract := ← doc.flag? "is_abstract"
    isInterface := ← doc.flag? "is_interface"
    isEmbedded := ← doc.flag? "is_embedded"
    annotationText := ← doc.required? "annotations_json" Json.text?
    properties := ← doc.list? "properties" PropertyRow.ofJson? }

end EntityForge
