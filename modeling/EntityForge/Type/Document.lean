import EntityForge.Json.Access
import EntityForge.Type.Signature

/-!
Types as documents.
-/

namespace EntityForge

namespace TypeKind

def toJson : TypeKind → Json
  | .primitive p => .object [("Primitive", .text p.title)]
  | .classType => .text "Class"
  | .variable => .text "Variable"
  | .wildcard => .text "Wildcard"

def ofJson? : Json → Option TypeKind
  | .text "Class" => some .classType
  | .text "Variable" => some .variable
  | .text "Wildcard" => some .wildcard
  | doc => do
    let title ← doc.required? "Primitive" Json.text?
    let p ← Primitive.all.find? fun p => p.title = title
    some (.primitive p)

end TypeKind

def Bound.ofLabel? (label : String) : Option Bound :=
  [exact, upper, lower].find? fun b => b.label = label

namespace TypeTree

mutual

def toJson : TypeTree → Json
  | ⟨raw, args, dims, kind, bound⟩ =>
    .object [("raw", .text raw), ("args", .array (toJsonAll args)), ("dims", .ofNat dims.toNat),
      ("kind", kind.toJson), ("bound", .text bound.label)]

def toJsonAll : List TypeTree → List Json
  | [] => []
  | t :: ts => toJson t :: toJsonAll ts

end

/-- A type with everything that follows from it. -/
def summary (t : TypeTree) : Json :=
  .object [("tree", t.toJson), ("signature", .text t.signature), ("display", .text t.display),
    ("erased", .text t.erasedDescriptor), ("cast", .text t.castName), ("boxed", .text t.boxedName),
    ("nodes", .ofNat t.nodeCount), ("is_array", .bool t.isArray),
    ("primitive", .ofOption (fun p => .text p.keyword) t.primitive?),
    ("element", .text t.element.signature)]

/-- Reads a type whose arguments nest fewer than `levels` deep. -/
def ofJson? : (levels : Nat) → Json → Option TypeTree
  | 0, _ => none
  | levels + 1, doc => do
    some {
      raw := ← doc.required? "raw" Json.text?
      args := ← doc.list? "args" (ofJson? levels)
      dims := UInt8.ofNat (← doc.defaulted? "dims" 0 Json.natural?)
      kind := ← doc.required? "kind" TypeKind.ofJson?
      bound := ← doc.required? "bound" fun b => b.text?.bind Bound.ofLabel? }

/-- The deepest type that is read. -/
def maxDocumentLevels : Nat := 128

def read? : Json → Option TypeTree := ofJson? maxDocumentLevels

end TypeTree

end EntityForge
