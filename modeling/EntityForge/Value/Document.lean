import EntityForge.Annotation.Document
import EntityForge.Annotation.Printer
import EntityForge.Class.Document
import EntityForge.Mapping.Document
import EntityForge.Value.Basic

/-!
Values as documents: a member for the kind and one for the value. How an object of the heap is
written is up to the caller, and so are doubles inside annotations; floating-point values are their
bits.
-/

namespace EntityForge.Value

mutual

/-- The objects that occur in a value, from left to right. -/
def objects : Value → List Nat
  | object id => [id]
  | list items => objectsAll items
  | map entries => objectsEntries entries
  | _ => []

def objectsAll : List Value → List Nat
  | [] => []
  | v :: vs => objects v ++ objectsAll vs

def objectsEntries : List (Value × Value) → List Nat
  | [] => []
  | (k, v) :: rest => objects k ++ objects v ++ objectsEntries rest

end

def tagged (kind : String) (v : Json) : Json := .object [("t", .text kind), ("v", v)]

mutual

def toJson (real : Number.Binary64 → Json) (objectDoc : Nat → Json) : Value → Json
  | null => .object [("t", .text "null")]
  | bool b => tagged "bool" (.bool b)
  | byte i => tagged "byte" (.ofInt i.toInt)
  | short i => tagged "short" (.ofInt i.toInt)
  | int i => tagged "int" (.ofInt i.toInt)
  | long i => tagged "long" (.ofInt i.toInt)
  | char c => tagged "char" (.ofNat c.toNat)
  | float x => tagged "float" (.text (Text.hexPadded 8 x.bits.toNat))
  | double x => tagged "double" (.text (Text.hexPadded 16 x.bits.toNat))
  | text s => tagged "text" (.text s)
  | list items => tagged "list" (.array (toJsonAll real objectDoc items))
  | map entries => tagged "map" (.array (toJsonEntries real objectDoc entries))
  | enumeration typeName variant =>
    .object [("t", .text "enum"), ("type_name", .text typeName), ("variant", .text variant)]
  | type t => tagged "type" t.toJson
  | annotationUse a => tagged "annotation" (a.toJson real)
  | config c => tagged "config" c.toJson
  | object id => objectDoc id
  | handle h => tagged "handle" (.text h.display)

def toJsonAll (real : Number.Binary64 → Json) (objectDoc : Nat → Json) : List Value → List Json
  | [] => []
  | v :: vs => toJson real objectDoc v :: toJsonAll real objectDoc vs

def toJsonEntries (real : Number.Binary64 → Json) (objectDoc : Nat → Json) :
    List (Value × Value) → List Json
  | [] => []
  | (k, v) :: rest =>
    .array [toJson real objectDoc k, toJson real objectDoc v] ::
      toJsonEntries real objectDoc rest

end

/-- Reads a value without parts. -/
def ofAtom? (doc : Json) : Option Value := do
  let integer : Option Int := doc.required? "v" Json.integer?
  let bits : Option Nat := doc.required? "v" Constant.bits?
  match ← doc.required? "t" Json.text? with
  | "null" => some null
  | "bool" => some (bool (← doc.required? "v" Json.bool?))
  | "byte" => some (byte (Int8.ofInt (← integer)))
  | "short" => some (short (Int16.ofInt (← integer)))
  | "int" => some (int (Int32.ofInt (← integer)))
  | "long" => some (long (Int64.ofInt (← integer)))
  | "char" => some (char (← charOfInt? (← integer)))
  | "float" => some (float ⟨UInt32.ofNat (← bits)⟩)
  | "double" => some (double ⟨UInt64.ofNat (← bits)⟩)
  | "text" => some (text (← doc.required? "v" Json.text?))
  | "enum" =>
    some (enumeration (← doc.required? "type_name" Json.text?)
      (← doc.required? "variant" Json.text?))
  | "annotation" => some (annotationUse (← doc.required? "v" Annotation.ofJson?))
  | _ => none

end EntityForge.Value
