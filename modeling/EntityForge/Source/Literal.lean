import EntityForge.Source.Identifier
import EntityForge.Text.Hex

/-!
Literals of source text: quoted texts and characters, raw texts, and numbers. Each reader gives the
input behind what it read; an identifier that follows a literal at once is its suffix.
-/

namespace EntityForge.Literal

/-- What a quoted literal holds: any text, bytes, or a text that a zero byte will end. -/
inductive Content where
  | text
  | bytes
  | terminated

/-- Whether a character may stand for itself. -/
def Content.admits : Content → Char → Bool
  | text, _ => true
  | bytes, c => c.toNat < 0x80
  | terminated, c => c ≠ '\x00'

/-- How far the inside of a literal has been read: between characters, behind a carriage return,
inside an escape, or in the blanks with which a line goes on. -/
inductive Progress where
  | plain
  | carriage
  | escape
  | highDigit
  | lowDigit (high : Nat)
  | scalarOpening
  | scalar (digits value : Nat)
  | continuation
  | continuationCarriage

namespace Progress

/-- A character between escapes. A carriage return can only begin a line end. -/
def onPlain? (content : Content) (c : Char) : Option Progress :=
  if c = '\\' then some escape
  else if c = '\r' then some carriage
  else if content.admits c then some plain
  else none

/-- The first character of an escape. -/
def onEscape? : Content → Char → Option Progress
  | _, 'n' | _, 'r' | _, 't' | _, '\\' | _, '\'' | _, '"' => some plain
  | _, 'x' => some highDigit
  | .text, '0' | .bytes, '0' => some plain
  | .text, 'u' | .terminated, 'u' => some scalarOpening
  | _, '\n' => some continuation
  | _, '\r' => some continuationCarriage
  | _, _ => none

/-- The first of two digits. In a text they denote a character below 128. -/
def onHighDigit? (content : Content) (c : Char) : Option Progress := do
  let high ← Text.hexValue? c
  match content with
  | .text => if high < 8 then some (lowDigit high) else none
  | _ => some (lowDigit high)

/-- The second of two digits. A text to be terminated holds no zero byte. -/
def onLowDigit? (content : Content) (high : Nat) (c : Char) : Option Progress := do
  let low ← Text.hexValue? c
  match content with
  | .terminated => if high = 0 ∧ low = 0 then none else some plain
  | _ => some plain

/-- A character between the braces around a code point of up to six digits. -/
def onScalar? (content : Content) (digits value : Nat) (c : Char) : Option Progress :=
  match Text.hexValue? c with
  | some digit => if digits < 6 then some (scalar (digits + 1) (16 * value + digit)) else none
  | none =>
    if digits = 0 then none
    else if c = '_' then some (scalar digits value)
    else if c = '\x7d' ∧ value.isValidChar ∧ content.admits (Char.ofNat value) then some plain
    else none

def next? (content : Content) : Progress → Char → Option Progress
  | plain, c => onPlain? content c
  | carriage, c => if c = '\n' then some plain else none
  | escape, c => onEscape? content c
  | highDigit, c => onHighDigit? content c
  | lowDigit high, c => onLowDigit? content high c
  | scalarOpening, c => if c = '\x7b' then some (scalar 0 0) else none
  | scalar digits value, c => onScalar? content digits value c
  | continuation, c =>
    if c = ' ' ∨ c = '\t' ∨ c = '\n' then some continuation
    else if c = '\r' then some continuationCarriage
    else onPlain? content c
  | continuationCarriage, c => if c = '\n' then some continuation else none

end Progress

/-- The input behind the quotation mark that ends a text. -/
def textEnd? (content : Content) : Progress → List Char → Option (List Char)
  | .plain, '"' :: rest => some rest
  | .continuation, '"' :: rest => some rest
  | progress, c :: rest => do textEnd? content (← progress.next? content c) rest
  | _, [] => none

/-- The input behind an escape. -/
def escapeEnd? (content : Content) : Progress → List Char → Option (List Char)
  | .plain, rest => some rest
  | .continuation, _ => none
  | .continuationCarriage, _ => none
  | progress, c :: rest => do escapeEnd? content (← progress.next? content c) rest
  | _, [] => none

/-- The input behind one character and the quotation mark that ends it. -/
def characterEnd? (content : Content) (cs : List Char) : Option (List Char) := do
  let behind ←
    match cs with
    | '\\' :: rest => escapeEnd? content .escape rest
    | c :: rest => if content.admits c then some rest else none
    | [] => none
  match behind with
  | '\'' :: rest => some rest
  | _ => none

/-- The input behind the quotation mark and the hashes that end a raw text. -/
def rawEnd? (content : Content) (hashes : List Char) : List Char → Option (List Char)
  | [] => none
  | '\r' :: '\n' :: rest => rawEnd? content hashes rest
  | c :: rest =>
    if c = '"' ∧ hashes.isPrefixOf rest then some (rest.drop hashes.length)
    else if c = '\r' ∨ !content.admits c then none
    else rawEnd? content hashes rest

/-- The input behind a raw text, from its hashes on. -/
def raw? (content : Content) (cs : List Char) : Option (List Char) :=
  let hashes := cs.takeWhile (· = '#')
  match cs.dropWhile (· = '#') with
  | '"' :: rest => if hashes.length ≤ 255 then rawEnd? content hashes rest else none
  | _ => none

/-- The input behind a text or a character, without its suffix. -/
def quoted? : List Char → Option (List Char)
  | '"' :: rest => textEnd? .text .plain rest
  | 'b' :: '"' :: rest => textEnd? .bytes .plain rest
  | 'c' :: '"' :: rest => textEnd? .terminated .plain rest
  | '\'' :: rest => characterEnd? .text rest
  | 'b' :: '\'' :: rest => characterEnd? .bytes rest
  | 'b' :: 'r' :: rest => raw? .bytes rest
  | 'c' :: 'r' :: rest => raw? .terminated rest
  | 'r' :: rest => raw? .text rest
  | _ => none

def isDigit (c : Char) : Bool := '0' ≤ c && c ≤ '9'

/-- Whether a character may stand among digits. -/
def isDigitPart (c : Char) : Bool := isDigit c || c = '_'

/-- The input behind the digits of an exponent, which have to be there. -/
def exponentEnd? (cs : List Char) : Option (List Char) :=
  let cs := cs.dropWhile (· = '_')
  let cs :=
    match cs with
    | '+' :: rest => rest.dropWhile (· = '_')
    | '-' :: rest => rest.dropWhile (· = '_')
    | cs => cs
  if cs.head?.any isDigit then some (cs.dropWhile isDigitPart) else none

/-- The input behind a fraction, which is digits with a point, an exponent or both. The point may
not begin a range, or lead to a name. -/
def fractionEnd? (cs : List Char) : Option (List Char) :=
  if !cs.head?.any isDigit then none
  else
    let exponent? : List Char → Option (List Char)
      | 'e' :: rest => exponentEnd? rest
      | 'E' :: rest => exponentEnd? rest
      | _ => none
    match cs.dropWhile isDigitPart with
    | '.' :: rest =>
      if rest.head?.any fun c => c = '.' || Identifier.isStart c then none
      else
        let behind := rest.dropWhile isDigitPart
        some ((exponent? behind).getD behind)
    | behind => exponent? behind

/-- The input behind digits to a base; `found` tells whether there has been one. A decimal digit
out of the range of the base spoils the number, a letter ends it. -/
def digitsEnd? (base : Nat) (found : Bool) : List Char → Option (List Char)
  | [] => if found then some [] else none
  | c :: rest =>
    if c = '_' then
      if !found ∧ base = 10 then none else digitsEnd? base found rest
    else
      match Text.hexValue? c with
      | some digit =>
        if digit < base then digitsEnd? base true rest
        else if found ∧ !isDigit c then some (c :: rest)
        else none
      | none => if found then some (c :: rest) else none

def wholeEnd? : List Char → Option (List Char)
  | '0' :: 'x' :: rest => digitsEnd? 16 false rest
  | '0' :: 'o' :: rest => digitsEnd? 8 false rest
  | '0' :: 'b' :: rest => digitsEnd? 2 false rest
  | cs => digitsEnd? 10 false cs

def number? (cs : List Char) : Option (List Char) :=
  let complete (behind : List Char) : Option (List Char) :=
    let rest := Identifier.skipWord behind
    if rest.head?.any Identifier.isPart then none else some rest
  ((fractionEnd? cs).bind complete).or ((wholeEnd? cs).bind complete)

/-- What stands for a literal that could not be written. -/
def placeholder : List Char := "(/*ERROR*/)".toList

def end? (cs : List Char) : Option (List Char) :=
  if placeholder.isPrefixOf cs then some (cs.drop placeholder.length)
  else ((quoted? cs).map Identifier.skipWord).or (number? cs)

def read? (cs : List Char) : Option (String × List Char) := do
  let rest ← end? cs
  return (String.ofList (cs.take (cs.length - rest.length)), rest)

end EntityForge.Literal
