/-!
Binary floating-point numbers as their bits. A number is taken apart into an exact significand and
power of two, and a quotient of naturals is rounded to the nearest number of a format, ties to even.
-/

namespace EntityForge.Number

structure BinaryFormat where
  fractionBits : Nat
  exponentBits : Nat
  deriving DecidableEq

/-- Single precision: 32 bits. -/
def single : BinaryFormat := ⟨23, 8⟩

/-- Double precision: 64 bits. -/
def double : BinaryFormat := ⟨52, 11⟩

/-- What a bit pattern denotes. A finite number is `significand * 2 ^ exponent`. -/
inductive Decoded where
  | finite (negative : Bool) (significand : Nat) (exponent : Int)
  | infinite (negative : Bool)
  | notANumber
  deriving DecidableEq

namespace BinaryFormat

def minExponent (f : BinaryFormat) : Int :=
  2 - Int.pow 2 (f.exponentBits - 1) - f.fractionBits

/-- The pattern of positive infinity: all bits of the exponent field set. -/
def infinity (f : BinaryFormat) : Nat := (Nat.pow 2 f.exponentBits - 1) * Nat.pow 2 f.fractionBits

def signWeight (f : BinaryFormat) : Nat := Nat.pow 2 (f.fractionBits + f.exponentBits)

def decode (f : BinaryFormat) (bits : Nat) : Decoded :=
  let negative := bits / f.signWeight % 2 = 1
  let field := bits / Nat.pow 2 f.fractionBits % Nat.pow 2 f.exponentBits
  let fraction := bits % Nat.pow 2 f.fractionBits
  if field = Nat.pow 2 f.exponentBits - 1 then
    if fraction = 0 then .infinite negative else .notANumber
  else if field = 0 then .finite negative fraction f.minExponent
  else .finite negative (Nat.pow 2 f.fractionBits + fraction) (f.minExponent + (field - 1 : Nat))

/-- A quotient rounded to the nearest natural, a tie to the even one. -/
def roundQuotient (num den : Nat) : Nat :=
  let q := num / den
  let twice := 2 * (num % den)
  if den < twice ∨ (twice = den ∧ q % 2 = 1) then q + 1 else q

/-- The pattern of `num * 2 ^ shift / den` rounded to the format; it grows past the greatest finite
number into infinity, never beyond. -/
def ofQuotient (f : BinaryFormat) (num den : Nat) : Nat :=
  if num = 0 ∨ den = 0 then 0
  else
    let estimate : Int := Nat.log2 num - Nat.log2 den - f.fractionBits
    let exponent : Int :=
      let scaledNum := num * Nat.pow 2 (-estimate).toNat
      let scaledDen := den * Nat.pow 2 estimate.toNat
      let fits := scaledNum < Nat.pow 2 (f.fractionBits + 1) * scaledDen
      let least := scaledNum < Nat.pow 2 f.fractionBits * scaledDen
      max f.minExponent (if least then estimate - 1 else if fits then estimate else estimate + 1)
    let significand := roundQuotient (num * Nat.pow 2 (-exponent).toNat) (den * Nat.pow 2 exponent.toNat)
    let pattern := (exponent - f.minExponent).toNat * Nat.pow 2 f.fractionBits + significand
    min pattern f.infinity

end BinaryFormat

/-- A number of single precision. Equality is equality of bits. -/
structure Binary32 where
  bits : UInt32
  deriving DecidableEq, Hashable, Inhabited

/-- A number of double precision. Equality is equality of bits. -/
structure Binary64 where
  bits : UInt64
  deriving DecidableEq, Hashable, Inhabited

def Binary32.decode (x : Binary32) : Decoded := single.decode x.bits.toNat

def Binary64.decode (x : Binary64) : Decoded := double.decode x.bits.toNat

/-- Numerical equality: no number equals a pattern that is not one, and the zeros are equal. -/
def Binary64.numEq (x y : Binary64) : Bool :=
  match x.decode, y.decode with
  | .notANumber, _ | _, .notANumber => false
  | .finite _ 0 _, .finite _ 0 _ => true
  | _, _ => x = y

/-- Numerical equality: no number equals a pattern that is not one, and the zeros are equal. -/
def Binary32.numEq (x y : Binary32) : Bool :=
  match x.decode, y.decode with
  | .notANumber, _ | _, .notANumber => false
  | .finite _ 0 _, .finite _ 0 _ => true
  | _, _ => x = y

def BinaryFormat.withSign (f : BinaryFormat) (negative : Bool) (magnitude : Nat) : Nat :=
  if negative then f.signWeight + magnitude else magnitude

/-- The pattern of `significand * 2 ^ exponent` rounded to the format. -/
def BinaryFormat.ofScaled (f : BinaryFormat) (significand : Nat) (exponent : Int) : Nat :=
  f.ofQuotient (significand * Nat.pow 2 exponent.toNat) (Nat.pow 2 (-exponent).toNat)

def Binary64.ofQuotient (negative : Bool) (num den : Nat) : Binary64 :=
  ⟨UInt64.ofNat (double.withSign negative (double.ofQuotient num den))⟩

/-- The same number in double precision. -/
def Binary32.widen (x : Binary32) : Binary64 :=
  match x.decode with
  | .finite negative m e => ⟨UInt64.ofNat (double.withSign negative (double.ofScaled m e))⟩
  | .infinite negative => ⟨UInt64.ofNat (double.withSign negative double.infinity)⟩
  | .notANumber =>
    let negative := x.bits.toNat / single.signWeight % 2 = 1
    let fraction := x.bits.toNat % Nat.pow 2 23 * Nat.pow 2 29
    ⟨UInt64.ofNat (double.withSign negative (double.infinity + fraction ||| Nat.pow 2 51))⟩

/-- The nearest number of single precision. -/
def Binary64.narrow (x : Binary64) : Binary32 :=
  match x.decode with
  | .finite negative m e => ⟨UInt32.ofNat (single.withSign negative (single.ofScaled m e))⟩
  | .infinite negative => ⟨UInt32.ofNat (single.withSign negative single.infinity)⟩
  | .notANumber =>
    let negative := x.bits.toNat / double.signWeight % 2 = 1
    let fraction := x.bits.toNat % Nat.pow 2 52 / Nat.pow 2 29
    ⟨UInt32.ofNat (single.withSign negative (single.infinity + fraction ||| Nat.pow 2 22))⟩

end EntityForge.Number
