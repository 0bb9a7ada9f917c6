import EntityForge.Json.Access
import EntityForge.Json.Reader
import EntityForge.Metadata.Class

/-!
Reading class metadata from JSON. A record is an object, whose unknown members are ignored and whose
known ones occur at most once, or an array of its fields in order. Nesting is limited, except inside
what is ignored.
-/

namespace EntityForge.Metadata

/-- How many arrays and objects may enclose a value. -/
def maxLevels : Nat := 127

/-- The fields of a record in the given order, `none` where one is absent. -/
def record? (fields : List String) : Json → Option (List (Option Json))
  | .object members =>
    if fields.any fun name => 1 < (members.filter fun m => m.1 = name).length then none
    else some (fields.map fun name => members.lookup name)
  | .array items =>
    if fields.length < items.length then none
    else some (items.map some ++ List.replicate (fields.length - items.length) none)
  | _ => none

/-- An integer within bounds. -/
def integer? (low high : Int) : Json → Option Int
  | .number literal => literal.integer?.filter fun i => low ≤ i && i ≤ high
  | _ => none

def int32? (doc : Json) : Option Int32 :=
  (integer? (-Int.pow 2 31) (Int.pow 2 31 - 1) doc).map Int32.ofInt

def int64? (doc : Json) : Option Int64 :=
  (integer? (-Int.pow 2 63) (Int.pow 2 63 - 1) doc).map Int64.ofInt

def flags? (doc : Json) : Option UInt16 :=
  (integer? 0 65535 doc).map fun i => UInt16.ofNat i.toNat

def double? : Json → Option Number.Binary64
  | .number literal => literal.asDouble?
  | _ => none

def single? : Json → Option Number.Binary32
  | .number literal => literal.asSingle?
  | _ => none

def required? {α : Type} (read? : Json → Option α) (doc : Option Json) : Option α := doc.bind read?

def defaulted? {α : Type} (absent : α) (read? : Json → Option α) : Option Json → Option α
  | none => some absent
  | some doc => read? doc

/-- A field that may be absent or null. -/
def optional? {α : Type} (read? : Json → Option α) : Option Json → Option (Option α)
  | none | some .null => some none
  | some doc => (read? doc).map some

/-- An array, each item one level deeper. -/
def list? {α : Type} (levels : Nat) (read? : Nat → Json → Option α) : Json → Option (List α)
  | .array items =>
    match levels with
    | 0 => none
    | levels + 1 => items.mapM (read? levels)
  | _ => none

/-- A table, each value one level deeper; of equal keys the last one counts. -/
def table? {α : Type} (levels : Nat) (read? : Nat → Json → Option α) : Json → Option (Keyed α)
  | .object members =>
    match levels with
    | 0 => none
    | levels + 1 => do
      let pairs ← members.mapM fun (key, doc) => (read? levels doc).map (key, ·)
      some (Keyed.ofPairs pairs)
  | _ => none

def tagged? : Json → Option (String × Json)
  | .object [(tag, content)] => some (tag, content)
  | _ => none

def elementValue? : (levels : Nat) → Json → Option ElementValue
  | 0, _ => none
  | levels + 1, doc => do
    let (tag, content) ← tagged? doc
    match tag with
    | "Bool" => (Json.bool? content).map .bool
    | "Int" => (int32? content).map .int
    | "Long" => (int64? content).map .long
    | "Double" => (double? content).map .double
    | "Text" => (Json.text? content).map .text
    | "Class" => (Json.text? content).map .classRef
    | "Enum" =>
      if levels = 0 then none
      else
        match ← record? ["type_name", "variant"] content with
        | [typeName, variant] =>
          some (.enumeration (← required? Json.text? typeName) (← required? Json.text? variant))
        | _ => none
    | "Array" =>
      match levels, content with
      | levels + 1, .array items => (items.mapM (elementValue? levels)).map .array
      | _, _ => none
    | "Annotation" =>
      match levels with
      | 0 => none
      | levels + 1 =>
        match ← record? ["type_name", "values"] content with
        | [typeName, values] =>
          let typeName ← required? Json.text? typeName
          match values with
          | none => some (.nested typeName [])
          | some (.object members) =>
            match levels with
            | 0 => none
            | levels + 1 =>
              let pairs ← members.mapM fun (key, doc) => (elementValue? levels doc).map (key, ·)
              some (.nested typeName (Keyed.ofPairs pairs))
          | some _ => none
        | _ => none
    | _ => none

def annotation? : (levels : Nat) → Json → Option Annotation
  | 0, _ => none
  | levels + 1, doc => do
    match ← record? ["type_name", "values"] doc with
    | [typeName, values] =>
      some ⟨← required? Json.text? typeName, ← defaulted? [] (table? levels elementValue?) values⟩
    | _ => none

def constant? : (levels : Nat) → Json → Option Constant
  | 0, _ => none
  | _ + 1, doc => do
    let (tag, content) ← tagged? doc
    match tag with
    | "Int" => (int32? content).map .int
    | "Long" => (int64? content).map .long
    | "Float" => (single? content).map .float
    | "Double" => (double? content).map .double
    | "Text" => (Json.text? content).map .text
    | _ => none

def field? : (levels : Nat) → Json → Option FieldMeta
  | 0, _ => none
  | levels + 1, doc => do
    match ← record? ["name", "descriptor", "signature", "flags", "annotations", "constant"] doc with
    | [name, descriptor, signature, flags, annotations, constant] =>
      some {
        name := ← required? Json.text? name
        descriptor := ← required? Json.text? descriptor
        signature := ← optional? Json.text? signature
        flags := ← defaulted? 0 flags? flags
        annotations := ← defaulted? [] (list? levels annotation?) annotations
        constant := ← optional? (constant? levels) constant }
    | _ => none

def method? : (levels : Nat) → Json → Option MethodMeta
  | 0, _ => none
  | levels + 1, doc => do
    match ← record? ["name", "descriptor", "signature", "flags", "annotations"] doc with
    | [name, descriptor, signature, flags, annotations] =>
      some {
        name := ← required? Json.text? name
        descriptor := ← required? Json.text? descriptor
        signature := ← optional? Json.text? signature
        flags := ← defaulted? 0 flags? flags
        annotations := ← defaulted? [] (list? levels annotation?) annotations }
    | _ => none

def class? : (levels : Nat) → Json → Option ClassMeta
  | 0, _ => none
  | levels + 1, doc => do
    let fields := ["name", "flags", "super_name", "signature", "fields", "methods", "annotations"]
    match ← record? fields doc with
    | [name, flags, superName, signature, fields, methods, annotations] =>
      some {
        name := ← required? Json.text? name
        flags := ← defaulted? 0 flags? flags
        superName := ← optional? Json.text? superName
        signature := ← optional? Json.text? signature
        fields := ← defaulted? [] (list? levels field?) fields
        methods := ← defaulted? [] (list? levels method?) methods
        annotations := ← defaulted? [] (list? levels annotation?) annotations }
    | _ => none

end Metadata

/-- Reads a class from a JSON text. -/
def ClassMeta.read? (s : String) : Option ClassMeta :=
  (Json.read? s).bind (Metadata.class? Metadata.maxLevels)

end EntityForge
