import EntityForge.Annotation.Printer
import EntityForge.Json.Access
import EntityForge.Metadata.Class

/-!
Class metadata as documents, in the form in which it is read. What may be missing is left out when
it is; how doubles are written is up to the caller.
-/

namespace EntityForge

def Json.textMember (key : String) (s : Option String) : List (String × Json) :=
  s.elim [] fun s => [(key, .text s)]

section

variable (double : Number.Binary64 → Json)

/-- A literal as a document; a float is written as the double of the same value. -/
def Constant.toMetaJson : Constant → Json
  | .int v => .object [("Int", .ofInt v.toInt)]
  | .long v => .object [("Long", .ofInt v.toInt)]
  | .float v => .object [("Float", double v.widen)]
  | .double v => .object [("Double", double v)]
  | .text s => .object [("Text", .text s)]

def FieldMeta.toJson (f : FieldMeta) : Json :=
  .object ([("name", .text f.name), ("descriptor", .text f.descriptor)] ++
    Json.textMember "signature" f.signature ++
    [("flags", .ofNat f.flags.toNat),
     ("annotations", .ofList (·.toJson double) f.annotations)] ++
    f.constant.elim [] fun c => [("constant", c.toMetaJson double)])

def MethodMeta.toJson (m : MethodMeta) : Json :=
  .object ([("name", .text m.name), ("descriptor", .text m.descriptor)] ++
    Json.textMember "signature" m.signature ++
    [("flags", .ofNat m.flags.toNat),
     ("annotations", .ofList (·.toJson double) m.annotations)])

def ClassMeta.toJson (c : ClassMeta) : Json :=
  .object ([("name", .text c.name), ("flags", .ofNat c.flags.toNat)] ++
    Json.textMember "super_name" c.superName ++ Json.textMember "signature" c.signature ++
    [("fields", .ofList (FieldMeta.toJson double) c.fields),
     ("methods", .ofList (MethodMeta.toJson double) c.methods),
     ("annotations", .ofList (·.toJson double) c.annotations)])

end

end EntityForge
