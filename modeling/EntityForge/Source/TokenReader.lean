import EntityForge.Source.Comment
import EntityForge.Source.Literal

/-!
Reading source text into tokens. Every bracket has to be closed by its partner.
-/

namespace EntityForge.Token

def markChars : List Char := "~!@#$%^&*-=+|;:,<.>/?'".toList

def isMarkAhead (cs : List Char) : Bool :=
  !Comment.isAhead cs && cs.head?.any markChars.contains

/-- Reads a mark. It is joint if another one follows; the mark of a lifetime is joint to a name,
behind which there is no other mark of its kind. -/
def mark? (cs : List Char) : Option (Token × List Char) :=
  if !isMarkAhead cs then none
  else
    match cs with
    | '\'' :: rest => do
      let (name, behind) ← Identifier.read? rest
      if behind.head? = some '\'' ∨ (behind.head? = some '#' ∧ !name.startsWith "r#") then none
      else some (mark '\'' true, rest)
    | c :: rest => some (mark c (isMarkAhead rest), rest)
    | [] => none

/-- How literals begin, so that no word does. -/
def literalMarks : List String :=
  ["r\"", "r#\"", "r##", "b\"", "b'", "br\"", "br#", "c\"", "cr\"", "cr#"]

def word? (cs : List Char) : Option (Token × List Char) :=
  if literalMarks.any (·.toList.isPrefixOf cs) then none
  else (Identifier.read? cs).map fun (name, rest) => (word name, rest)

def leaf? (cs : List Char) : Option (Token × List Char) :=
  ((Literal.read? cs).map fun (text, rest) => (literal text, rest)).or ((mark? cs).or (word? cs))

/-- A group that is not closed yet: its brackets, and the tokens in front of it from right to
left. -/
structure Opened where
  delimiter : Delimiter
  before : List Token

inductive Turn where
  | opens (delimiter : Delimiter)
  | closes (delimiter : Delimiter)

def turn? : Char → Option Turn
  | '(' => some (.opens .parenthesis)
  | '[' => some (.opens .bracket)
  | '\x7b' => some (.opens .brace)
  | ')' => some (.closes .parenthesis)
  | ']' => some (.closes .bracket)
  | '\x7d' => some (.closes .brace)
  | _ => none

/-- Reads the input to its end, with groups still open and the tokens since the last bracket from
right to left. One step of `fuel` for each character, and one for the end, are enough. -/
def readFrom (opened : List Opened) (done : List Token) : (fuel : Nat) → List Char →
    Option (List Token)
  | 0, _ => none
  | _ + 1, [] => if opened.isEmpty then some done.reverse else none
  | fuel + 1, c :: rest =>
    if Comment.isBlank c then readFrom opened done fuel rest
    else if Comment.isAhead (c :: rest) then do
      let (kind, text, rest) ← Comment.read? (c :: rest)
      let tokens ← Comment.tokens? kind text
      readFrom opened (tokens.reverse ++ done) fuel rest
    else
      match leaf? (c :: rest) with
      | some (token, rest) => readFrom opened (token :: done) fuel rest
      | none =>
        match turn? c, opened with
        | some (.opens delimiter), _ => readFrom (⟨delimiter, done⟩ :: opened) [] fuel rest
        | some (.closes delimiter), last :: opened =>
          if last.delimiter = delimiter then
            readFrom opened (.group delimiter done.reverse :: last.before) fuel rest
          else none
        | _, _ => none

/-- Reads a text. A mark of the byte order may come first. -/
def read? (s : String) : Option (List Token) :=
  match s.toList with
  | '\uFEFF' :: cs => readFrom [] [] (cs.length + 1) cs
  | cs => readFrom [] [] (cs.length + 1) cs

end EntityForge.Token
