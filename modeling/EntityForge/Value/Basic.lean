import EntityForge.Failure
import EntityForge.Mapping.Config

/-!
Values of the machine. Primitive and boxed forms are one; boxing only checks that the kind is right.
Objects are named by their place on the heap, and two handles are the same only if one binding made
both.
-/

namespace EntityForge

open Number

inductive HandleTarget where
  | field (slot : Nat) (type : TypeTree)
  | method (descriptor : String) (arity : Nat)

structure MemberHandle where
  id : Nat
  className : String
  name : String
  target : HandleTarget

namespace MemberHandle

def isField (h : MemberHandle) : Bool :=
  match h.target with
  | .field _ _ => true
  | .method _ _ => false

def display (h : MemberHandle) : String :=
  match h.target with
  | .field _ _ => s!"field {h.className}.{h.name}"
  | .method descriptor _ => s!"method {h.className}.{h.name}{descriptor}"

end MemberHandle

inductive Value where
  | null
  | bool (value : Bool)
  | byte (value : Int8)
  | char (value : Char)
  | short (value : Int16)
  | int (value : Int32)
  | long (value : Int64)
  | float (value : Binary32)
  | double (value : Binary64)
  | text (value : String)
  | list (items : List Value)
  | map (entries : List (Value × Value))
  | enumeration (typeName variant : String)
  | type (value : TypeTree)
  | annotationUse (value : Annotation)
  | config (value : MappingConfig)
  | object (id : Nat)
  | handle (value : MemberHandle)

namespace Value

instance : Inhabited Value := ⟨null⟩

def kindName : Value → String
  | null => "null"
  | bool _ => "boolean"
  | byte _ => "byte"
  | char _ => "char"
  | short _ => "short"
  | int _ => "int"
  | long _ => "long"
  | float _ => "float"
  | double _ => "double"
  | text _ => "string"
  | list _ => "list"
  | map _ => "map"
  | enumeration _ _ => "enum"
  | type _ => "type"
  | annotationUse _ => "annotation"
  | config _ => "config"
  | object _ => "object"
  | handle _ => "handle"

def isNull : Value → Bool
  | null => true
  | _ => false

def primitive? : Value → Option Primitive
  | bool _ => some .boolean
  | byte _ => some .byte
  | char _ => some .char
  | short _ => some .short
  | int _ => some .int
  | long _ => some .long
  | float _ => some .float
  | double _ => some .double
  | _ => none

/-- The value of a field of a type before any initializer. -/
def zero (t : TypeTree) : Value :=
  match t.primitive? with
  | some .boolean => bool false
  | some .byte => byte 0
  | some .char => char '\x00'
  | some .short => short 0
  | some .int => int 0
  | some .long => long 0
  | some .float => float ⟨0⟩
  | some .double => double ⟨0⟩
  | some .void | none => null

def stringClass : String := "java.lang.String"

def charOfInt? (i : Int) : Option Char :=
  if 0 ≤ i ∧ i.toNat.isValidChar then some (Char.ofNat i.toNat) else none

/-- The value of an initializer in a field of a type: integers are narrowed to the type, exactly or
not at all. -/
def ofInitializer (c : Constant) (t : TypeTree) : Except Failure Value :=
  let target :=
    match t.primitive? with
    | some p => some p
    | none => if t.isArray then none else Primitive.ofBoxed? t.raw
  let value? :=
    match c, target with
    | .int v, some .boolean => some (bool (v ≠ 0))
    | .int v, some .byte =>
      if -128 ≤ v.toInt ∧ v.toInt ≤ 127 then some (byte (Int8.ofInt v.toInt)) else none
    | .int v, some .char => (charOfInt? v.toInt).map char
    | .int v, some .short =>
      if -32768 ≤ v.toInt ∧ v.toInt ≤ 32767 then some (short (Int16.ofInt v.toInt)) else none
    | .int v, some .int => some (int v)
    | .int v, some .long => some (long (Int64.ofInt v.toInt))
    | .long v, some .long => some (long v)
    | .float v, some .float => some (float v)
    | .float v, some .double => some (double v.widen)
    | .double v, some .double => some (double v)
    | .text v, none => if t.raw = stringClass ∧ !t.isArray then some (text v) else none
    | _, _ => none
  match value? with
  | some v => .ok v
  | none => .error (.constantMisfit c t)

def ofLiteral : Constant → Value
  | .int v => int v
  | .long v => long v
  | .float v => float v
  | .double v => double v
  | .text v => text v

/-- Boxes a value of exactly the primitive. -/
def boxed (v : Value) (p : Primitive) : Except Failure Value :=
  if v.primitive? = some p then .ok v else .error (.cannotBox v.kindName p)

/-- Unboxes a value of exactly the primitive; null is none. -/
def unboxed (v : Value) (p : Primitive) : Except Failure Value :=
  if v.primitive? = some p then .ok v else .error (.cannotUnbox v.kindName p)

def unexpected (v : Value) (expected : String) : Failure := .unexpectedKind expected v.kindName

def toText : Value → Except Failure String
  | text s => .ok s
  | v => .error (v.unexpected "string")

def toBool : Value → Except Failure Bool
  | bool b => .ok b
  | v => .error (v.unexpected "boolean")

def toList : Value → Except Failure (List Value)
  | list items => .ok items
  | v => .error (v.unexpected "list")

def toTexts (v : Value) : Except Failure (List String) := do
  let items ← v.toList
  items.mapM toText

def toType : Value → Except Failure TypeTree
  | type t => .ok t
  | v => .error (v.unexpected "type")

def toAnnotation : Value → Except Failure Annotation
  | annotationUse a => .ok a
  | v => .error (v.unexpected "annotation")

def toObject : Value → Except Failure Nat
  | object id => .ok id
  | v => .error (v.unexpected "object")

def toConfig : Value → Except Failure MappingConfig
  | config c => .ok c
  | v => .error (v.unexpected "config")

mutual

/-- Equality: of bits for floating-point values, of identity for objects and handles. -/
def same : Value → Value → Bool
  | null, null => true
  | bool a, bool b => a = b
  | byte a, byte b => a = b
  | char a, char b => a = b
  | short a, short b => a = b
  | int a, int b => a = b
  | long a, long b => a = b
  | float a, float b => a = b
  | double a, double b => a = b
  | text a, text b => a = b
  | list as, list bs => sameItems as bs
  | map as, map bs => sameEntries as bs
  | enumeration t v, enumeration t' v' => t = t' && v = v'
  | type a, type b => a = b
  | annotationUse a, annotationUse b => a.same b
  | config a, config b => a = b
  | object a, object b => a = b
  | handle a, handle b => a.id = b.id
  | _, _ => false

def sameItems : List Value → List Value → Bool
  | [], [] => true
  | a :: as, b :: bs => same a b && sameItems as bs
  | _, _ => false

def sameEntries : List (Value × Value) → List (Value × Value) → Bool
  | [], [] => true
  | (k, a) :: as, (k', b) :: bs => same k k' && same a b && sameEntries as bs
  | _, _ => false

end

def display (classOf : Nat → String) : Value → String
  | null => "null"
  | bool b => if b then "true" else "false"
  | byte v => toString v.toInt
  | char c => Text.quoteChar c
  | short v => toString v.toInt
  | int v => toString v.toInt
  | long v => toString v.toInt ++ "L"
  | float v => v.toText ++ "f"
  | double v => v.toText ++ "d"
  | text s => Text.quote s
  | list items => s!"list[{items.length}]"
  | map entries => s!"map[{entries.length}]"
  | enumeration typeName variant => s!"{typeName}.{variant}"
  | type t => t.display
  | annotationUse a => s!"@{a.typeName}"
  | config _ => "<config>"
  | object id => s!"<{classOf id}>"
  | handle h => s!"<handle {h.display}>"

mutual

def toElementValue? : Value → Option ElementValue
  | bool b => some (.bool b)
  | byte v => some (.int (Int32.ofInt v.toInt))
  | short v => some (.int (Int32.ofInt v.toInt))
  | char c => some (.text (String.singleton c))
  | int v => some (.int v)
  | long v => some (.long v)
  | float v => some (.double v.widen)
  | double v => some (.double v)
  | text s => some (.text s)
  | enumeration typeName variant => some (.enumeration typeName variant)
  | type t => some (.classRef t.raw)
  | annotationUse a => some a.toValue
  | list items => (toElementValues? items).map .array
  | null | map _ | config _ | object _ | handle _ => none

def toElementValues? : List Value → Option (List ElementValue)
  | [] => some []
  | v :: vs =>
    match toElementValue? v, toElementValues? vs with
    | some e, some es => some (e :: es)
    | _, _ => none

end

end Value

end EntityForge
