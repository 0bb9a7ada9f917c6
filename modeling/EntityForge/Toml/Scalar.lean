/-!
Numbers and dates of a TOML document. Integers have up to 128 bits, floating-point numbers must not
round to infinity, and a date must be one of the calendar.
-/

namespace EntityForge

namespace Toml

/-- The value of a hexadecimal digit of either case. -/
def hexDigit? (c : Char) : Option Nat :=
  if '0' ≤ c ∧ c ≤ '9' then some (c.toNat - 48)
  else if 'a' ≤ c ∧ c ≤ 'f' then some (c.toNat - 87)
  else if 'A' ≤ c ∧ c ≤ 'F' then some (c.toNat - 55)
  else none

/-- Whether digits of a class stand in groups joined by single underscores. -/
def isDigitGroups (digit : Char → Bool) (cs : List Char) : Bool :=
  cs.all (fun c => digit c || c = '_') && !cs.isEmpty && cs.head? != some '_' &&
    cs.getLast? != some '_' && !(cs.zip (cs.drop 1)).any (· = ('_', '_'))

/-- Whether a text is a decimal integer without superfluous zeros, its sign aside. -/
def isDecimal (cs : List Char) : Bool :=
  isDigitGroups Char.isDigit cs && (cs.length = 1 || cs.head? != some '0')

/-- The characters after an optional sign. -/
def unsigned : List Char → List Char
  | '+' :: rest | '-' :: rest => rest
  | cs => cs

/-- The value of digits in a base, underscores aside. -/
def digitsValue (base : Nat) (cs : List Char) : Nat :=
  (cs.filterMap hexDigit?).foldl (fun n digit => base * n + digit) 0

/-- The value of decimal digits behind an optional sign. -/
def signedValue (cs : List Char) : Int :=
  let value : Int := digitsValue 10 (unsigned cs)
  if cs.head? = some '-' then -value else value

/-- Whether digits after the mark of a base make an integer of at most 128 bits. -/
def isBased (base : Nat) (cs : List Char) : Bool :=
  isDigitGroups (fun c => (hexDigit? c).any (· < base)) cs && digitsValue base cs < Nat.pow 2 128

/-- Whether `digits · 10 ^ exponent` rounds to an infinite double: it does from halfway between the
greatest double and the next power of two on. -/
def overflows (digits : Nat) (exponent : Int) : Bool :=
  let limit := Nat.pow 2 1024 - Nat.pow 2 970
  let places : Int := (Nat.toDigits 10 digits).length + exponent
  if digits = 0 ∨ places < 300 then false
  else if 320 < places then true
  else if exponent < 0 then limit * Nat.pow 10 (-exponent).toNat ≤ digits
  else limit ≤ digits * Nat.pow 10 exponent.toNat

/-- Whether a character continues a run of digits. -/
def isDigitOrJoin (c : Char) : Bool := c.isDigit || c = '_'

/-- Whether `cs` completes the digits of a number to a finite one: with an exponent, or with
nothing. The last `places` of the digits are behind the point. -/
def isScaled (digits : List Char) (places : Nat) : List Char → Bool
  | [] => !overflows (digitsValue 10 digits) (-places)
  | mark :: exponent =>
    (mark = 'e' || mark = 'E') && isDigitGroups Char.isDigit (unsigned exponent) &&
      !overflows (digitsValue 10 digits) (signedValue exponent - places)

def isNumber (cs : List Char) : Bool :=
  let body := unsigned cs
  let whole := body.takeWhile isDigitOrJoin
  match cs, body.dropWhile isDigitOrJoin with
  | '0' :: 'x' :: digits, _ => isBased 16 digits
  | '0' :: 'o' :: digits, _ => isBased 8 digits
  | '0' :: 'b' :: digits, _ => isBased 2 digits
  | _, [] => isDecimal whole && -Int.pow 2 127 ≤ signedValue cs && signedValue cs < Int.pow 2 128
  | _, '.' :: rest =>
    let fraction := rest.takeWhile isDigitOrJoin
    isDecimal whole && isDigitGroups Char.isDigit fraction &&
      isScaled (whole ++ fraction) (fraction.filter Char.isDigit).length
        (rest.dropWhile isDigitOrJoin)
  | _, rest => body = ['i', 'n', 'f'] || body = ['n', 'a', 'n'] ||
      (isDecimal whole && isScaled whole 0 rest)

/-- Reads a number of `width` digits within bounds. -/
def field? (width low high : Nat) (cs : List Char) : Option (Nat × List Char) :=
  let digits := cs.take width
  let value := digitsValue 10 digits
  if digits.length = width ∧ digits.all Char.isDigit ∧ low ≤ value ∧ value ≤ high then
    some (value, cs.drop width)
  else none

def mark? (c : Char) : List Char → Option (List Char)
  | d :: rest => if c = d then some rest else none
  | [] => none

def daysOf (year month : Nat) : Nat :=
  if month = 2 then
    if year % 4 = 0 ∧ (year % 100 ≠ 0 ∨ year % 400 = 0) then 29 else 28
  else if month = 4 ∨ month = 6 ∨ month = 9 ∨ month = 11 then 30
  else 31

def day? (cs : List Char) : Option (List Char) := do
  let (year, cs) ← field? 4 0 9999 cs
  let (month, cs) ← field? 2 1 12 (← mark? '-' cs)
  let (_, cs) ← field? 2 1 (daysOf year month) (← mark? '-' cs)
  some cs

def clock? (cs : List Char) : Option (List Char) := do
  let (_, cs) ← field? 2 0 23 cs
  let (_, cs) ← field? 2 0 59 (← mark? ':' cs)
  some cs

/-- Reads a time of day; the seconds may be left out. -/
def time? (cs : List Char) : Option (List Char) := do
  match ← clock? cs with
  | ':' :: cs =>
    match ← field? 2 0 60 cs with
    | (_, '.' :: cs) =>
      if (cs.takeWhile Char.isDigit).isEmpty then none else some (cs.dropWhile Char.isDigit)
    | (_, cs) => some cs
  | cs => some cs

/-- Whether a text is the distance from universal time, or nothing. -/
def isOffset : List Char → Bool
  | [] | ['Z'] | ['z'] => true
  | c :: rest => (c = '+' || c = '-') && clock? rest = some []

/-- Whether a token is a date, a time of day, or a date and time with an optional offset. -/
def isDate (cs : List Char) : Bool :=
  match day? cs with
  | some [] => true
  | some (c :: rest) => (c = 'T' || c = 't' || c = ' ') && (time? rest).any isOffset
  | none => time? cs = some []

end Toml

end EntityForge
