import EntityForge.Json.Value
import EntityForge.Number.Shortest

/-!
Printing JSON compactly, without white space. Texts escape quotation marks, backslashes and control
characters only.
-/

namespace EntityForge.Json

open Number

/-- One character inside a text. -/
def escapeTextChar (c : Char) : List Char :=
  match c with
  | '"' => ['\\', '"']
  | '\\' => ['\\', '\\']
  | '\x08' => ['\\', 'b']
  | '\x0c' => ['\\', 'f']
  | '\n' => ['\\', 'n']
  | '\r' => ['\\', 'r']
  | '\t' => ['\\', 't']
  | _ =>
    if c.toNat < 0x20 then
      ['\\', 'u', '0', '0'] ++ Nat.toDigits 16 (c.toNat / 16) ++ Nat.toDigits 16 (c.toNat % 16)
    else [c]

def renderText (s : String) : List Char := '"' :: s.toList.flatMap escapeTextChar ++ ['"']

/-- A number as written, with the sign of its exponent in any case. -/
def NumberLiteral.render (n : NumberLiteral) : List Char :=
  let sign := if n.negative then ['-'] else []
  let fraction := if n.fraction.isEmpty then [] else '.' :: n.fraction
  let exponent :=
    match n.exponent with
    | none => []
    | some (negative, digits) => 'e' :: (if negative then '-' else '+') :: digits
  sign ++ n.whole ++ fraction ++ exponent

/-- Joins rendered parts with commas between brackets. -/
def bracketed (opening closing : Char) (parts : List (List Char)) : List Char :=
  opening :: [','].intercalate parts ++ [closing]

mutual

def renderChars : Json → List Char
  | .null | .unreadable => ['n', 'u', 'l', 'l']
  | .bool true => ['t', 'r', 'u', 'e']
  | .bool false => ['f', 'a', 'l', 's', 'e']
  | .number literal => literal.render
  | .text s => renderText s
  | .array items => bracketed '[' ']' (renderItems items)
  | .object members => bracketed '\x7b' '\x7d' (renderMembers members)

/-- The characters of each item. -/
def renderItems : List Json → List (List Char)
  | [] => []
  | item :: rest => renderChars item :: renderItems rest

def renderMembers : List (String × Json) → List (List Char)
  | [] => []
  | (key, item) :: rest => (renderText key ++ ':' :: renderChars item) :: renderMembers rest

end

def render (doc : Json) : String := String.ofList (renderChars doc)

/-- The digits of a shortest decimal as a literal: positional when the point falls within sixteen
digits after the first or five places before it, in scientific notation otherwise; an integral
number ends in `.0`. -/
def NumberLiteral.ofDecimal (negative : Bool) (d : Decimal) : NumberLiteral :=
  let ds := digitsOf d.digits
  let point : Int := ds.length + d.exponent
  if 0 ≤ d.exponent ∧ point ≤ 16 then
    ⟨negative, ds ++ List.replicate d.exponent.toNat '0', ['0'], none⟩
  else if 0 < point ∧ point ≤ 16 then
    ⟨negative, ds.take point.toNat, ds.drop point.toNat, none⟩
  else if -5 < point ∧ point ≤ 0 then
    ⟨negative, ['0'], List.replicate (-point).toNat '0' ++ ds, none⟩
  else
    ⟨negative, ds.take 1, ds.drop 1, some (point - 1 < 0, digitsOf (point - 1).natAbs)⟩

/-- The literal of a double; a pattern that denotes no finite number is written as null. -/
def ofDouble (x : Binary64) : Json :=
  match x.decode with
  | .finite negative 0 _ => .number ⟨negative, ['0'], ['0'], none⟩
  | .finite negative m e => .number (.ofDecimal negative (double.shortest .toEven m e))
  | _ => .null

end EntityForge.Json
