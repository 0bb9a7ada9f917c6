import EntityForge.Type.Container
import EntityForge.Value.Basic

/-!
Which values may stand where a class or type is expected. Targets are class names or array
descriptors; an array target asks every item of a list. Whether an object is an instance of a class
is left to the caller.
-/

namespace EntityForge.Value

def isNumeric : Primitive → Bool
  | .boolean | .char | .void => false
  | _ => true

/-- Whether a value conforms to a class other than the class of all objects. -/
def conformsToClass (isInstance : Nat → String → Bool) (target : String) : Value → Bool
  | null => true
  | text _ => target = stringClass || target = "java.lang.CharSequence"
  | list _ => Container.isCollection target
  | map _ => Container.isMap target
  | enumeration typeName _ => target = typeName || target = "java.lang.Enum"
  | type _ => target = "critter.mapping.TypeData"
  | annotationUse _ => target = "java.lang.annotation.Annotation"
  | config _ => target = "critter.mapping.MappingConfig"
  | handle _ => target = "critter.mapping.MemberHandle"
  | object id => isInstance id target
  | v =>
    match v.primitive? with
    | some p => Primitive.ofBoxed? target = some p || (target = "java.lang.Number" && isNumeric p)
    | none => false

/-- The class that an element descriptor refers to. -/
def classReference? : List Char → Option (List Char)
  | 'L' :: rest =>
    if rest.getLast? = some ';' then
      some (rest.dropLast.map fun c => if c = '/' then '.' else c)
    else none
  | _ => none

theorem classReference?_length {element name : List Char}
    (h : classReference? element = some name) : name.length < element.length := by
  unfold classReference? at h
  split at h
  · split at h
    · cases h
      simp only [List.length_map, List.length_dropLast, List.length_cons]
      omega
    · cases h
  · cases h

/-- Whether a value is of the primitive that an element descriptor names; null never is. -/
def fitsPrimitiveElement (element : List Char) (v : Value) : Bool :=
  match element with
  | [c] =>
    match Primitive.ofLetter? c with
    | some p => v.primitive? = some p
    | none => false
  | _ => false

/-- Whether a value may stand where the target is expected. -/
def conformsTo (isInstance : Nat → String → Bool) (target : List Char) (v : Value) : Bool :=
  match target with
  | '[' :: element =>
    match v with
    | null => true
    | list items =>
      items.all fun item =>
        match element with
        | '[' :: inner => conformsTo isInstance ('[' :: inner) item
        | element =>
          match _h : classReference? element with
          | some name => conformsTo isInstance name item
          | none => fitsPrimitiveElement element item
    | _ => false
  | target =>
    let name := String.ofList target
    name = TypeTree.objectClass || conformsToClass isInstance name v
termination_by target.length
decreasing_by
  · simp_all
  · have := classReference?_length _h
    simp only [List.length_cons]
    omega

/-- Whether a value may be stored where a type is expected: a primitive takes exactly its own values
and never null. -/
def fits (isInstance : Nat → String → Bool) (v : Value) (t : TypeTree) : Bool :=
  match t.primitive? with
  | some p => v.primitive? = some p
  | none => conformsTo isInstance t.castName.toList v

end EntityForge.Value
