import EntityForge.Annotation.Registry
import EntityForge.Metadata.Reader

/-!
Annotation kinds as documents.
-/

namespace EntityForge

def Annotation.ofJson? : Json → Option Annotation := Metadata.annotation? Metadata.maxLevels

def ElementValue.ofJson? : Json → Option ElementValue := Metadata.elementValue? Metadata.maxLevels

def ElementKind.ofLabel? (label : String) : Option ElementKind :=
  [any, .bool, .classRef, .double, .enumeration, .int, .long, .text, .textArray].find? fun k =>
    k.label = label

def ElementSpec.ofJson? (doc : Json) : Option ElementSpec := do
  some {
    name := ← doc.required? "name" Json.text?
    kind := ← doc.required? "kind" fun d => d.text?.bind ElementKind.ofLabel?
    default := ← doc.optional? "default" ElementValue.ofJson? }

def AnnotationKind.ofJson? (doc : Json) : Option AnnotationKind := do
  some {
    typeName := ← doc.required? "type_name" Json.text?
    elements := ← doc.list? "elements" ElementSpec.ofJson? }

/-- Reads a registry: further kinds behind those of the mapping, or alone if it is to be empty. -/
def AnnotationRegistry.ofJson? (doc : Json) : Option AnnotationRegistry := do
  let base := if ← doc.flag? "empty" then empty else builtin
  some ((← doc.list? "kinds" AnnotationKind.ofJson?).foldl register base)

end EntityForge
