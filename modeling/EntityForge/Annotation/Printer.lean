import EntityForge.Annotation.Basic
import EntityForge.Json.Printer

/-!
Annotations as documents, in the form in which they are read: a value is an object whose one key is
its kind, and values that are not there are left out. How doubles are written is up to the caller.
-/

namespace EntityForge

mutual

def ElementValue.toJson (double : Number.Binary64 → Json) : ElementValue → Json
  | .bool b => .object [("Bool", .bool b)]
  | .int i => .object [("Int", .ofInt i.toInt)]
  | .long i => .object [("Long", .ofInt i.toInt)]
  | .double d => .object [("Double", double d)]
  | .text s => .object [("Text", .text s)]
  | .enumeration typeName variant =>
    .object [("Enum", .object [("type_name", .text typeName), ("variant", .text variant)])]
  | .classRef name => .object [("Class", .text name)]
  | .array items => .object [("Array", .array (itemsToJson double [] items))]
  | .nested typeName values =>
    .object [("Annotation", .object (("type_name", .text typeName) ::
      if values.isEmpty then [] else [("values", .object (entriesToJson double values))]))]

/-- Values as documents behind those in `done`, which are reversed. -/
def ElementValue.itemsToJson (double : Number.Binary64 → Json) (done : List Json) :
    List ElementValue → List Json
  | [] => done.reverse
  | v :: vs => itemsToJson double (toJson double v :: done) vs

/-- Elements as members. -/
def ElementValue.entriesToJson (double : Number.Binary64 → Json) :
    List (String × ElementValue) → List (String × Json)
  | [] => []
  | (k, v) :: rest => (k, toJson double v) :: entriesToJson double rest

end

def Annotation.toJson (double : Number.Binary64 → Json) (a : Annotation) : Json :=
  .object (("type_name", .text a.typeName) ::
    if a.values.isEmpty then []
    else [("values", .object (ElementValue.entriesToJson double a.values))])

end EntityForge
