import EntityForge.Metadata.Reader
import EntityForge.Model.Accessor

/-!
Tables: models of entities as literals, written out ahead of time. Types and annotations stand in
them as text and are read when asked for.
-/

namespace EntityForge

structure PropertyRow where
  name : String
  fullName : String
  mappedName : String
  loadNames : List String
  typeSignature : String
  accessorClass : String
  flags : PropertyFlags
  /-- The completed annotations as JSON. -/
  annotationText : String

structure EntityTable where
  name : String
  simpleName : String
  collectionName : String
  discriminator : String
  discriminatorKey : String
  useDiscriminator : Bool
  isAbstract : Bool
  isInterface : Bool
  isEmbedded : Bool
  /-- The completed annotations as JSON. -/
  annotationText : String
  properties : List PropertyRow

def readTableAnnotations (s : String) : Except Failure (List Annotation) :=
  match (Json.read? s).bind (Metadata.list? Metadata.maxLevels Metadata.annotation?) with
  | some annotations => .ok annotations
  | none => .error .corruptTableAnnotations

namespace PropertyRow

def type (row : PropertyRow) : Except Failure TypeTree :=
  (Signature.parseType row.typeSignature).mapError (.corruptTableType row.typeSignature)

def annotations (row : PropertyRow) : Except Failure (List Annotation) :=
  readTableAnnotations row.annotationText

def accessor (row : PropertyRow) : Run Accessor := Accessor.ofClass row.accessorClass

end PropertyRow

namespace EntityTable

def annotations (table : EntityTable) : Except Failure (List Annotation) :=
  readTableAnnotations table.annotationText

def property? (table : EntityTable) (name : String) : Option PropertyRow :=
  table.properties.find? fun row => row.name = name

/-- Reads a property of an object through the accessor class of its row. -/
def get (table : EntityTable) (property : String) (object : Nat) : Run Value := do
  match table.property? property with
  | none => throw (.noTableProperty table.name property)
  | some row => (← row.accessor).get object

end EntityTable

end EntityForge
