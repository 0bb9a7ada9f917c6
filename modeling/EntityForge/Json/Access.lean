import EntityForge.Json.Number

/-!
Taking documents apart and putting them together. A member that is null counts as absent.
-/

namespace EntityForge.Json

variable {α : Type}

/-- A value that may be missing, as null when it is. -/
def ofOption (encode : α → Json) (a : Option α) : Json := a.elim .null encode

def ofList (encode : α → Json) (items : List α) : Json := .array (items.map encode)

def ofText? (s : Option String) : Json := ofOption .text s

def text? : Json → Option String
  | .text s => some s
  | _ => none

def bool? : Json → Option Bool
  | .bool b => some b
  | _ => none

def elements? : Json → Option (List Json)
  | .array items => some items
  | _ => none

/-- The integer that a document is. -/
def integer? : Json → Option Int
  | .number literal => literal.integer?
  | _ => none

def natural? (doc : Json) : Option Nat := doc.integer?.bind fun i => if i < 0 then none else i.toNat

def field? (doc : Json) (key : String) : Option Json :=
  match doc.member? key with
  | some .null | none => none
  | some field => some field

def required? (doc : Json) (key : String) (read? : Json → Option α) : Option α :=
  (doc.field? key).bind read?

def defaulted? (doc : Json) (key : String) (absent : α) (read? : Json → Option α) : Option α :=
  match doc.field? key with
  | none => some absent
  | some field => read? field

def optional? (doc : Json) (key : String) (read? : Json → Option α) : Option (Option α) :=
  doc.defaulted? key none fun field => (read? field).map some

/-- A list that is empty unless it is there. -/
def list? (doc : Json) (key : String) (read? : Json → Option α) : Option (List α) :=
  doc.defaulted? key [] fun field => field.elements?.bind (·.mapM read?)

/-- A truth value that is false unless it is there. -/
def flag? (doc : Json) (key : String) : Option Bool := doc.defaulted? key false bool?

end EntityForge.Json
