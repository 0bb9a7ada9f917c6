import EntityForge.Json.Value

/-!
What a number literal denotes. Integers are exact in the range of 64-bit words. A floating-point
value is built from at most 64 bits of leading digits, scaled by one power of ten in double
arithmetic; digits beyond those change only the scale.
-/

namespace EntityForge.Json

open Number

def digitValue (c : Char) : Nat := c.toNat - 48

def digitsValue (cs : List Char) : Nat := cs.foldl (fun n c => 10 * n + digitValue c) 0

/-- The integer that a literal without fraction and exponent denotes within 64 bits. A negative zero
is not an integer. -/
def NumberLiteral.integer? (n : NumberLiteral) : Option Int :=
  match n.fraction, n.exponent with
  | [], none =>
    let magnitude := digitsValue n.whole
    if n.negative then
      if 0 < magnitude ∧ magnitude ≤ Nat.pow 2 63 then some (-magnitude) else none
    else if magnitude < UInt64.size then some magnitude else none
  | _, _ => none

/-- The leading digits of a literal as one number below `2 ^ 64`, and the power of ten that scales
it before the written exponent. -/
def NumberLiteral.leading (n : NumberLiteral) : Nat × Int :=
  let whole := n.whole.foldl (fun (value, skipped) c =>
    let next := 10 * value + digitValue c
    if skipped = 0 ∧ next < UInt64.size then (next, 0) else (value, skipped + 1))
    ((0, 0) : Nat × Nat)
  let all := n.fraction.foldl (fun (value, places, open_) c =>
    let next := 10 * value + digitValue c
    if open_ && next < UInt64.size then (next, places + 1, true) else (value, places, false))
    ((whole.1, 0, true) : Nat × Nat × Bool)
  (all.1, (whole.2 : Int) - all.2.1)

/-- The double nearest to a power of ten. -/
def powerOfTen (k : Nat) : Binary64 := .ofQuotient false (Nat.pow 10 k) 1

/-- A positive or zero double as an exact quotient. -/
def quotientOf (x : Binary64) : Nat × Nat :=
  match x.decode with
  | .finite _ m e => (m * Nat.pow 2 e.toNat, Nat.pow 2 (-e).toNat)
  | _ => (0, 1)

/-- The product of two doubles that are not negative. -/
def times (x y : Binary64) : Binary64 :=
  .ofQuotient false ((quotientOf x).1 * (quotientOf y).1) ((quotientOf x).2 * (quotientOf y).2)

/-- The quotient of two doubles that are not negative. -/
def dividedBy (x y : Binary64) : Binary64 :=
  .ofQuotient false ((quotientOf x).1 * (quotientOf y).2) ((quotientOf x).2 * (quotientOf y).1)

/-- Scales a double by a power of ten; there is no result beyond the greatest finite number. -/
def scale? (x : Binary64) (exponent : Int) : Option Binary64 :=
  if exponent < -308 then
    if x.bits = 0 then some x
    else scale? (dividedBy x (powerOfTen 308)) (exponent + 308)
  else if exponent < 0 then some (dividedBy x (powerOfTen (-exponent).toNat))
  else if 308 < exponent then
    if x.bits = 0 then some x else none
  else
    let result := times x (powerOfTen exponent.toNat)
    if result.decode = .infinite false then none else some result
termination_by (-exponent).toNat
decreasing_by omega

/-- The double that a literal denotes, if it is in range. -/
def NumberLiteral.double? (n : NumberLiteral) : Option Binary64 :=
  let (value, shift) := n.leading
  let magnitude? :=
    match n.exponent with
    | none => scale? (.ofQuotient false value 1) shift
    | some (negative, digits) =>
      let written := digitsValue digits
      if Nat.pow 2 31 ≤ written then
        if value ≠ 0 ∧ !negative then none else some ⟨0⟩
      else
        scale? (.ofQuotient false value 1) (if negative then shift - written else shift + written)
  magnitude?.map fun x => if n.negative then ⟨x.bits ||| 0x8000000000000000⟩ else x

/-- The double that a literal denotes when an integer in range counts as itself. -/
def NumberLiteral.asDouble? (n : NumberLiteral) : Option Binary64 :=
  match n.integer? with
  | some i => some (.ofQuotient (i < 0) i.natAbs 1)
  | none => n.double?

/-- The number of single precision that a literal denotes: an integer is rounded once, any other
literal by way of its double. -/
def NumberLiteral.asSingle? (n : NumberLiteral) : Option Binary32 :=
  match n.integer? with
  | some i => some ⟨UInt32.ofNat (single.withSign (i < 0) (single.ofQuotient i.natAbs 1))⟩
  | none => n.double?.map (·.narrow)

end EntityForge.Json
