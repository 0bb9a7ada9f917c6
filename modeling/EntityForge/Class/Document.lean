import EntityForge.Class.Code
import EntityForge.Json.Access
import EntityForge.Type.Document

/-!
Class bodies as documents. An instruction is an array of its mnemonic and its operands; a
floating-point literal is written as the hexadecimal digits of its bits.
-/

namespace EntityForge

namespace Constant

def toJson : Constant → Json
  | .int v => .object [("Int", .ofInt v.toInt)]
  | .long v => .object [("Long", .ofInt v.toInt)]
  | .float v => .object [("Float", .text (Text.hexPadded 8 v.bits.toNat))]
  | .double v => .object [("Double", .text (Text.hexPadded 16 v.bits.toNat))]
  | .text s => .object [("Text", .text s)]

/-- The bits that a text of hexadecimal digits gives. -/
def bits? (doc : Json) : Option Nat := doc.text?.bind Text.readHexNumber?

def ofJson? : Json → Option Constant
  | .object [("Int", n)] => n.integer?.map fun i => .int (Int32.ofInt i)
  | .object [("Long", n)] => n.integer?.map fun i => .long (Int64.ofInt i)
  | .object [("Float", s)] => (bits? s).map fun n => .float ⟨UInt32.ofNat n⟩
  | .object [("Double", s)] => (bits? s).map fun n => .double ⟨UInt64.ofNat n⟩
  | .object [("Text", s)] => s.text?.map .text
  | _ => none

end Constant

namespace TypeKind

/-- The name of a kind in code: a keyword for a primitive. -/
def codeName : TypeKind → String
  | .primitive p => p.keyword
  | .classType => "Class"
  | .variable => "Variable"
  | .wildcard => "Wildcard"

def ofCodeName? (name : String) : Option TypeKind :=
  match name with
  | "Class" => some .classType
  | "Variable" => some .variable
  | "Wildcard" => some .wildcard
  | name => (Primitive.ofKeyword? name).map .primitive

end TypeKind

def Intrinsic.ofLabel? (label : String) : Option Intrinsic :=
  [collectionName, discriminator, discriminatorKey].find? fun i => i.label = label

namespace Instruction

def operandsToJson : Instruction → List Json
  | nop | dup | pop | pushNull | annotationEnd | handleGet | returnValue | returnVoid => []
  | load n => [.ofNat n.toNat]
  | pushBool b => [.bool b]
  | loadConstant c => [c.toJson]
  | getField className name | putField className name | resolveField className name =>
    [.text className, .text name]
  | invoke className name descriptor => [.text className, .text name, .text descriptor]
  | new className descriptor => [.text className, .text descriptor]
  | checkCast target => [.text target]
  | box p | unbox p => [.text p.keyword]
  | newType kind raw bound dims argc =>
    [.text kind.codeName, .text raw, .text bound.label, .ofNat dims.toNat, .ofNat argc.toNat]
  | newList n => [.ofNat n.toNat]
  | newEnum typeName variant => [.text typeName, .text variant]
  | annotationBegin typeName => [.text typeName]
  | annotationSet element => [.text element]
  | resolveMethod className name descriptor required =>
    [.text className, .text name, .text descriptor, .bool required]
  | handleSet entity property => [.text entity, .text property]
  | intrinsic which => [.text which.label]
  | throw message => [.text message]

def toJson (i : Instruction) : Json := .array (.text i.mnemonic :: i.operandsToJson)

def byte? (doc : Json) : Option UInt8 := doc.natural?.map UInt8.ofNat

def ofJson? (doc : Json) : Option Instruction :=
  match doc with
  | .array (.text mnemonic :: operands) =>
    match mnemonic, operands with
    | "NOP", [] => some .nop
    | "LOAD", [n] => (byte? n).map .load
    | "DUP", [] => some .dup
    | "POP", [] => some .pop
    | "PUSH_NULL", [] => some .pushNull
    | "PUSH_BOOL", [b] => b.bool?.map .pushBool
    | "LDC", [c] => (Constant.ofJson? c).map .loadConstant
    | "GET_FIELD", [.text c, .text n] => some (.getField c n)
    | "PUT_FIELD", [.text c, .text n] => some (.putField c n)
    | "INVOKE", [.text c, .text n, .text d] => some (.invoke c n d)
    | "NEW", [.text c, .text d] => some (.new c d)
    | "CHECK_CAST", [.text t] => some (.checkCast t)
    | "BOX", [.text p] => (Primitive.ofKeyword? p).map .box
    | "UNBOX", [.text p] => (Primitive.ofKeyword? p).map .unbox
    | "NEW_TYPE", [.text kind, .text raw, .text bound, dims, argc] => do
      some (.newType (← TypeKind.ofCodeName? kind) raw (← Bound.ofLabel? bound) (← byte? dims)
        (← byte? argc))
    | "NEW_LIST", [n] => n.natural?.map fun n => .newList (UInt16.ofNat n)
    | "NEW_ENUM", [.text t, .text v] => some (.newEnum t v)
    | "ANNOTATION_BEGIN", [.text t] => some (.annotationBegin t)
    | "ANNOTATION_SET", [.text e] => some (.annotationSet e)
    | "ANNOTATION_END", [] => some .annotationEnd
    | "RESOLVE_FIELD", [.text c, .text n] => some (.resolveField c n)
    | "RESOLVE_METHOD", [.text c, .text n, .text d, .bool r] => some (.resolveMethod c n d r)
    | "HANDLE_GET", [] => some .handleGet
    | "HANDLE_SET", [.text e, .text p] => some (.handleSet e p)
    | "INTRINSIC", [.text i] => (Intrinsic.ofLabel? i).map .intrinsic
    | "THROW", [.text m] => some (.throw m)
    | "RETURN", [] => some .returnValue
    | "RETURN_VOID", [] => some .returnVoid
    | _, _ => none
  | _ => none

end Instruction

def AccessFlag.ofJson? (doc : Json) : Option UInt16 := doc.natural?.map UInt16.ofNat

namespace FieldDef

def toJson (f : FieldDef) : Json :=
  .object [("name", .text f.name), ("descriptor", .text f.descriptor),
    ("flags", .ofNat f.flags.toNat), ("initial", .ofOption Constant.toJson f.initial)]

def ofJson? (doc : Json) : Option FieldDef := do
  some ⟨← doc.required? "name" Json.text?, ← doc.required? "descriptor" Json.text?,
    ← doc.defaulted? "flags" 0 AccessFlag.ofJson?, ← doc.optional? "initial" Constant.ofJson?⟩

end FieldDef

namespace MethodDef

def toJson (m : MethodDef) : Json :=
  .object [("name", .text m.name), ("descriptor", .text m.descriptor),
    ("flags", .ofNat m.flags.toNat), ("max_locals", .ofNat m.maxLocals.toNat),
    ("code", .ofList Instruction.toJson m.code)]

/-- Reads everything but the code of a method. -/
def headOfJson? (doc : Json) : Option MethodDef := do
  some {
    name := ← doc.required? "name" Json.text?
    descriptor := ← doc.required? "descriptor" Json.text?
    flags := ← doc.defaulted? "flags" 0 AccessFlag.ofJson?
    maxLocals := ← doc.defaulted? "max_locals" 0 AccessFlag.ofJson?
    code := [] }

end MethodDef

def ClassKind.ofLabel? (label : String) : Option ClassKind :=
  [entity, accessor, propertyModel, entityModel].find? fun k => k.label = label

namespace ClassBody

def toJson (b : ClassBody) : Json :=
  .object [("name", .text b.name), ("kind", .text b.kind.label), ("flags", .ofNat b.flags.toNat),
    ("super", .ofText? b.superName), ("signature", .ofText? b.signature),
    ("interfaces", .ofTexts b.interfaces), ("fields", .ofList FieldDef.toJson b.fields),
    ("methods", .ofList MethodDef.toJson b.methods)]

/-- Reads everything but the methods of a class. -/
def headOfJson? (doc : Json) : Option ClassBody := do
  some {
    name := ← doc.required? "name" Json.text?
    kind := ← doc.required? "kind" fun d => d.text?.bind ClassKind.ofLabel?
    flags := ← doc.defaulted? "flags" AccessFlag.isPublic AccessFlag.ofJson?
    superName := ← doc.optional? "super" Json.text?
    signature := ← doc.optional? "signature" Json.text?
    interfaces := ← doc.list? "interfaces" Json.text?
    fields := ← doc.list? "fields" FieldDef.ofJson? }

end ClassBody

end EntityForge
