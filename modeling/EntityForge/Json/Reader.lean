import EntityForge.Json.Value

/-!
Reading JSON text. The grammar is the strict one: no superfluous zeros, no control characters inside
a text, nothing but white space after the document.
-/

namespace EntityForge.Json

/-- The white space between tokens. -/
def isBlank (c : Char) : Bool := c = ' ' || c = '\n' || c = '\t' || c = '\r'

/-- The input without leading white space. -/
def skipBlanks (cs : List Char) : List Char := cs.dropWhile isBlank

def hexDigitValue? (c : Char) : Option Nat :=
  if '0' ≤ c ∧ c ≤ '9' then some (c.toNat - 48)
  else if 'a' ≤ c ∧ c ≤ 'f' then some (c.toNat - 87)
  else if 'A' ≤ c ∧ c ≤ 'F' then some (c.toNat - 55)
  else none

def hexUnit? : List Char → Option (Nat × List Char)
  | a :: b :: c :: d :: rest => do
    let a ← hexDigitValue? a
    let b ← hexDigitValue? b
    let c ← hexDigitValue? c
    let d ← hexDigitValue? d
    some (4096 * a + 256 * b + 16 * c + d, rest)
  | _ => none

/-- One unit of a text: a character, half a surrogate pair, or the closing quotation mark. -/
inductive TextUnit where
  | char (c : Char)
  | half
  | close

/-- Reads one unit. Two escaped halves that belong together are one character. -/
def textUnit? : List Char → Option (TextUnit × List Char)
  | '"' :: rest => some (.close, rest)
  | '\\' :: 'u' :: rest => do
    let (unit, rest) ← hexUnit? rest
    if 0xDC00 ≤ unit ∧ unit ≤ 0xDFFF then some (.half, rest)
    else if 0xD800 ≤ unit ∧ unit ≤ 0xDBFF then
      match rest with
      | '\\' :: 'u' :: after =>
        let (low, after) ← hexUnit? after
        if 0xDC00 ≤ low ∧ low ≤ 0xDFFF then
          some (.char (Char.ofNat (0x10000 + (unit - 0xD800) * 0x400 + (low - 0xDC00))), after)
        else some (.half, rest)
      | _ => some (.half, rest)
    else some (.char (Char.ofNat unit), rest)
  | '\\' :: c :: rest =>
    match c with
    | '"' | '\\' | '/' => some (.char c, rest)
    | 'b' => some (.char '\x08', rest)
    | 'f' => some (.char '\x0c', rest)
    | 'n' => some (.char '\n', rest)
    | 'r' => some (.char '\r', rest)
    | 't' => some (.char '\t', rest)
    | _ => none
  | c :: rest => if c.toNat < 0x20 then none else some (.char c, rest)
  | [] => none

/-- Reads the rest of a text after its opening quotation mark; the result is `none` inside when the
text holds half a surrogate pair. -/
def textFrom : Nat → Bool → List Char → List Char → Option (Option String × List Char)
  | 0, _, _, _ => none
  | fuel + 1, whole, done, cs =>
    match textUnit? cs with
    | none => none
    | some (.close, rest) =>
      some (if whole then some (String.ofList done.reverse) else none, rest)
    | some (.half, rest) => textFrom fuel false done rest
    | some (.char c, rest) => textFrom fuel whole (c :: done) rest

/-- The leading digits of the input and what follows them. -/
def digitRun (cs : List Char) : List Char × List Char := cs.span Char.isDigit

/-- Reads an optional fraction. -/
def fraction? : List Char → Option (List Char × List Char)
  | '.' :: rest =>
    match digitRun rest with
    | ([], _) => none
    | (digits, rest) => some (digits, rest)
  | cs => some ([], cs)

def exponent? : List Char → Option (Option (Bool × List Char) × List Char)
  | c :: rest =>
    if c = 'e' ∨ c = 'E' then
      let (negative, rest) :=
        match rest with
        | '+' :: rest => (false, rest)
        | '-' :: rest => (true, rest)
        | _ => (false, rest)
      match digitRun rest with
      | ([], _) => none
      | (digits, rest) => some (some (negative, digits), rest)
    else some (none, c :: rest)
  | [] => some (none, [])

/-- Reads a number whose sign has been read. -/
def number? (negative : Bool) (cs : List Char) : Option (Json × List Char) := do
  let (whole, rest) := digitRun cs
  if whole = [] ∨ (whole.length ≠ 1 ∧ whole.head? = some '0') then none
  else
    let (fraction, rest) ← fraction? rest
    let (exponent, rest) ← exponent? rest
    some (.number ⟨negative, whole, fraction, exponent⟩, rest)

mutual

/-- Reads one document; `fuel` bounds the number of steps and the length of the input is enough. -/
def value? : Nat → List Char → Option (Json × List Char)
  | 0, _ => none
  | fuel + 1, cs =>
    match skipBlanks cs with
    | 'n' :: 'u' :: 'l' :: 'l' :: rest => some (.null, rest)
    | 't' :: 'r' :: 'u' :: 'e' :: rest => some (.bool true, rest)
    | 'f' :: 'a' :: 'l' :: 's' :: 'e' :: rest => some (.bool false, rest)
    | '"' :: rest =>
      match textFrom (rest.length + 1) true [] rest with
      | some (some s, rest) => some (.text s, rest)
      | some (none, rest) => some (.unreadable, rest)
      | none => none
    | '[' :: rest =>
      match skipBlanks rest with
      | ']' :: rest => some (.array [], rest)
      | rest => items? fuel [] rest
    | '\x7b' :: rest =>
      match skipBlanks rest with
      | '\x7d' :: rest => some (.object [], rest)
      | rest => members? fuel true [] rest
    | '-' :: rest => number? true rest
    | rest => number? false rest

/-- Reads the items of an array, at least one; `done` is reversed. -/
def items? : Nat → List Json → List Char → Option (Json × List Char)
  | 0, _, _ => none
  | fuel + 1, done, cs =>
    match value? fuel cs with
    | none => none
    | some (item, rest) =>
      match skipBlanks rest with
      | ',' :: rest => items? fuel (item :: done) rest
      | ']' :: rest => some (.array (item :: done).reverse, rest)
      | _ => none

/-- Reads the members of an object, at least one; `done` is reversed. -/
def members? : Nat → Bool → List (String × Json) → List Char → Option (Json × List Char)
  | 0, _, _, _ => none
  | fuel + 1, whole, done, cs =>
    match skipBlanks cs with
    | '"' :: rest =>
      match textFrom (rest.length + 1) true [] rest with
      | none => none
      | some (key, rest) =>
        match skipBlanks rest with
        | ':' :: rest =>
          match value? fuel rest with
          | none => none
          | some (item, rest) =>
            let whole := whole && key.isSome
            let done := (key.getD "", item) :: done
            match skipBlanks rest with
            | ',' :: rest => members? fuel whole done rest
            | '\x7d' :: rest =>
              some (if whole then .object done.reverse else .unreadable, rest)
            | _ => none
        | _ => none
    | _ => none

end

def read? (s : String) : Option Json :=
  let cs := s.toList
  match value? (cs.length + 1) cs with
  | some (doc, rest) => if (skipBlanks rest).isEmpty then some doc else none
  | none => none

end EntityForge.Json
