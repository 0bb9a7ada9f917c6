import EntityForge.Annotation.Registry
import EntityForge.Class.Code
import EntityForge.Generated.AccessorClass

/-!
Replaying annotations: the code in a model's constructor that fills its annotation list. Only
annotations of registered kinds are replayed, and each of them must be complete in itself, so that
it fails here and not when a model is made.
-/

namespace EntityForge

/-- The annotations that a model replays. -/
def AnnotationRegistry.replayable (r : AnnotationRegistry) (annotations : List Annotation) :
    Except Failure (List Annotation) := do
  let known := annotations.filter fun a => r.contains a.typeName
  let _ ← known.mapM r.complete
  return known

namespace Replay

mutual

def valueCode (entity : String) : ElementValue → Except GenerationError Code
  | .bool b => .ok [.pushBool b]
  | .int i => .ok [.loadConstant (.int i)]
  | .long i => .ok [.loadConstant (.long i)]
  | .double d => .ok [.loadConstant (.double d)]
  | .text s => .ok [Code.loadText s]
  | .enumeration typeName variant => .ok [.newEnum typeName variant]
  | .classRef name => (Code.typeData (.ofClass name)).mapError .failure
  | .array items =>
    if items.length ≤ 65535 then
      match itemsCode entity [] items with
      | .error e => .error e
      | .ok code => .ok (code ++ [.newList (UInt16.ofNat items.length)])
    else .error (.unsupported entity .annotationArrayTooLong)
  | .nested typeName _ => .error (.unsupported entity (.annotationInside typeName))

/-- Builds values one after the other; `done` are the pieces for those before them, reversed. -/
def itemsCode (entity : String) (done : List Code) : List ElementValue → Except GenerationError Code
  | [] => .ok done.reverse.flatten
  | v :: vs =>
    match valueCode entity v with
    | .error e => .error e
    | .ok code => itemsCode entity (code :: done) vs

end

def elementCode (entity : String) (element : String × ElementValue) :
    Except GenerationError Code := do
  let value ← valueCode entity element.2
  return value ++ [.annotationSet element.1]

def annotationCode (entity : String) (a : Annotation) : Except GenerationError Code := do
  let elements ← a.values.mapM (elementCode entity)
  return [Code.loadThis, .annotationBegin a.typeName] ++ elements.flatten ++ [.annotationEnd]

/-- Empties the annotation list of a model and fills it. -/
def code (entity className : String) (annotations : List Annotation) :
    Except GenerationError Code := do
  let parts ← annotations.mapM (annotationCode entity)
  return [Code.loadThis, .newList 0, .putField className annotationsField] ++ parts.flatten

end Replay

def MethodDef.answersText (m : MethodRef) (s : String) : MethodDef :=
  AccessorShape.member m [Code.loadText s, .returnValue]

def MethodDef.answersBool (m : MethodRef) (b : Bool) : MethodDef :=
  AccessorShape.member m [.pushBool b, .returnValue]

/-- A method that answers a field of the receiver. -/
def MethodDef.answersField (m : MethodRef) (className field : String) : MethodDef :=
  AccessorShape.member m [Code.loadThis, .getField className field, .returnValue]

/-- A method that answers what code leaves on the stack. -/
def MethodDef.answersCode (m : MethodRef) (code : Code) : MethodDef :=
  AccessorShape.member m (code ++ [.returnValue])

end EntityForge
