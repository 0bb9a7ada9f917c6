import EntityForge.Number.Binary

/-!
The shortest decimal that reads back as the same binary number. The decimals that round to a number
form an interval around it; the first decimal grid with a point in it, from coarse to fine, gives
the digits, and of two such points the nearer one is taken.
-/

namespace EntityForge.Number

inductive TieRule where
  | upward | toEven
  deriving DecidableEq

structure Decimal where
  digits : Nat
  exponent : Int
  deriving DecidableEq

/-- A number `value / scale` with the ends of its rounding interval over the same denominator, which
belong to it when `closed`. -/
structure Interval where
  low : Nat
  value : Nat
  high : Nat
  scale : Nat
  closed : Bool

/-- The interval of reals that round to `significand * 2 ^ exponent`, a positive number of `f`. The
neighbour below a power of two is only half as far away. -/
def BinaryFormat.interval (f : BinaryFormat) (significand : Nat) (exponent : Int) : Interval :=
  let up := Nat.pow 2 exponent.toNat
  let narrow := significand = Nat.pow 2 f.fractionBits ∧ f.minExponent < exponent
  { low := (4 * significand - if narrow then 1 else 2) * up
    value := 4 * significand * up
    high := (4 * significand + 2) * up
    scale := 4 * Nat.pow 2 (-exponent).toNat
    closed := significand % 2 = 0 }

/-- Whether `point / unit` lies in the interval. -/
def Interval.holds (i : Interval) (point unit : Nat) : Bool :=
  if i.closed then i.low * unit ≤ point * i.scale && point * i.scale ≤ i.high * unit
  else i.low * unit < point * i.scale && point * i.scale < i.high * unit

/-- The point of the grid of multiples of `10 ^ exponent` that is written for the interval, if one
of the value's two neighbours on the grid lies in it. -/
def Interval.onGrid? (i : Interval) (tie : TieRule) (exponent : Int) : Option Decimal :=
  let num := i.value * Nat.pow 10 (-exponent).toNat
  let den := i.scale * Nat.pow 10 exponent.toNat
  let below := num / den
  let inside (d : Nat) : Bool :=
    i.holds (d * Nat.pow 10 exponent.toNat) (Nat.pow 10 (-exponent).toNat)
  match 0 < below && inside below, inside (below + 1) with
  | true, false => some ⟨below, exponent⟩
  | false, true => some ⟨below + 1, exponent⟩
  | true, true =>
    let twice := 2 * (num % den)
    let up := den < twice || (twice = den && (tie = .upward || below % 2 = 1))
    some ⟨if up then below + 1 else below, exponent⟩
  | false, false => none

/-- The first hit on the `fuel` grids from `10 ^ exponent` downwards. -/
def Interval.search (i : Interval) (tie : TieRule) : Nat → Int → Option Decimal
  | 0, _ => none
  | fuel + 1, exponent =>
    match i.onGrid? tie exponent with
    | some d => some d
    | none => i.search tie fuel (exponent - 1)

/-- Drops the trailing zeros of a positive digit string, at most `fuel` of them. -/
def Decimal.trim : Nat → Decimal → Decimal
  | 0, d => d
  | fuel + 1, d =>
    if d.digits % 10 = 0 ∧ d.digits ≠ 0 then trim fuel ⟨d.digits / 10, d.exponent + 1⟩ else d

/-- The shortest decimal for a positive number of the format. The search starts on a grid that is
too coarse for any digit and needs at most as many grids as the format has significant decimals. -/
def BinaryFormat.shortest (f : BinaryFormat) (tie : TieRule) (significand : Nat) (exponent : Int) :
    Decimal :=
  let i := f.interval significand exponent
  let top : Int := (Nat.log2 significand + exponent) * 30103 / 100000 + 2
  let grids := f.fractionBits + 4
  ((i.search tie grids top).getD ⟨0, 0⟩).trim grids

/-- The decimal digits of a number. -/
def digitsOf (n : Nat) : List Char := Nat.toDigits 10 n

/-- A decimal in positional notation: no exponent, and a point only before a nonzero part. -/
def Decimal.positional (d : Decimal) : List Char :=
  let ds := digitsOf d.digits
  if 0 ≤ d.exponent then ds ++ List.replicate d.exponent.toNat '0'
  else
    let places := (-d.exponent).toNat
    if places < ds.length then ds.take (ds.length - places) ++ '.' :: ds.drop (ds.length - places)
    else ['0', '.'] ++ List.replicate (places - ds.length) '0' ++ ds

def BinaryFormat.positional (f : BinaryFormat) : Decoded → String
  | .notANumber => "NaN"
  | .infinite negative => if negative then "-inf" else "inf"
  | .finite negative 0 _ => if negative then "-0" else "0"
  | .finite negative m e =>
    let text := String.ofList (f.shortest .upward m e).positional
    if negative then "-" ++ text else text

/-- The shortest positional text that reads back as the number. -/
def Binary32.toText (x : Binary32) : String := single.positional x.decode

/-- The shortest positional text that reads back as the number. -/
def Binary64.toText (x : Binary64) : String := double.positional x.decode

end EntityForge.Number
