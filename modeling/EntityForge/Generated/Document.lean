import EntityForge.Class.Decode
import EntityForge.Class.Listing
import EntityForge.Generated.Generator
import EntityForge.Json.Access

/-!
Generated classes as documents. The bytes of a class stand for themselves by length and digest.
-/

namespace EntityForge

namespace ClassRecord

def members (r : ClassRecord) : List (String × Json) :=
  [("name", .text r.name), ("len", .ofNat r.bytes.length), ("digest", .text r.hexDigest),
   ("path", .text r.relativePath)]

def toJson (r : ClassRecord) : Json := .object r.members

def listing (r : ClassRecord) : Except FormatError String :=
  (ClassBody.decode r.bytes).map (·.listing [])

/-- A record as members of a document, with the listing of its class or why there is none. -/
def listedMembers (format : FormatError → Json) (r : ClassRecord) : List (String × Json) :=
  let listing :=
    match r.listing with
    | .ok text => Json.text text
    | .error e => format e
  r.members ++ [("listing", listing)]

end ClassRecord

/-- Every name that follows from an entity and one of its properties. -/
def GeneratedName.summary (entity property : String) : Json :=
  .object [("accessor", .text (accessor entity property)),
    ("property_model", .text (propertyModel entity property)),
    ("entity_model", .text (entityModel entity)), ("reader", .text (reader property)),
    ("writer", .text (writer property)), ("module", .text (fileStem entity)),
    ("capitalize", .text (BeanName.capitalize property)),
    ("decapitalize", .text (BeanName.decapitalize property)),
    ("simple", .text (Qualified.simpleName entity)),
    ("package", .text (Qualified.packageName entity))]

def GeneratedEntity.members (record : ClassRecord → Json) (g : GeneratedEntity) :
    List (String × Json) :=
  [("name", .text g.name), ("mode", .text g.mode.label),
   ("entity_model_class", .text g.entityModelClass),
   ("property_model_classes", .ofTexts g.propertyModelClasses),
   ("accessor_classes", .ofTexts g.accessorClasses), ("class_names", .ofTexts g.classNames),
   ("records", .ofList record g.records)]

end EntityForge
