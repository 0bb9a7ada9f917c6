import EntityForge.Number.Binary

/-!
JSON documents. A number keeps its literal, because what it denotes depends on the reader: an
integer in a range, or a floating-point number.
-/

namespace EntityForge

namespace Json

/-- A number as written. The whole part has no superfluous zeros; `fraction` is empty when there is
no point; an exponent is a sign and its digits. -/
structure NumberLiteral where
  negative : Bool
  whole : List Char
  fraction : List Char
  exponent : Option (Bool × List Char)
  deriving DecidableEq

end Json

/-- A JSON document. Members keep their order and repetitions. -/
inductive Json where
  | null
  | bool (value : Bool)
  | number (literal : Json.NumberLiteral)
  | text (value : String)
  /-- A text, or an object with a key, that names half a surrogate pair: it follows the grammar but
  denotes nothing. -/
  | unreadable
  | array (items : List Json)
  | object (members : List (String × Json))
  deriving Inhabited

namespace Json

def ofInt (n : Int) : Json := .number ⟨n < 0, Nat.toDigits 10 n.natAbs, [], none⟩

def ofNat (n : Nat) : Json := .number ⟨false, Nat.toDigits 10 n, [], none⟩

def ofTexts (items : List String) : Json := .array (items.map .text)

/-- The value of the last member of a name, if the document is an object that has it. -/
def member? (doc : Json) (key : String) : Option Json :=
  match doc with
  | .object members => members.reverse.lookup key
  | _ => none

end Json

end EntityForge
