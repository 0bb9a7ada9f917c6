/-!
Hexadecimal text of bytes and words, two lowercase digits to a byte.
-/

namespace EntityForge.Text

/-- The lowercase digit of a value below sixteen. -/
def hexDigit (n : Nat) : Char :=
  if n < 10 then Char.ofNat (48 + n) else Char.ofNat (87 + n)

/-- The value of a hexadecimal digit of either case. -/
def hexValue? (c : Char) : Option Nat :=
  if '0' ≤ c ∧ c ≤ '9' then some (c.toNat - 48)
  else if 'a' ≤ c ∧ c ≤ 'f' then some (c.toNat - 87)
  else if 'A' ≤ c ∧ c ≤ 'F' then some (c.toNat - 55)
  else none

def hexByte (b : UInt8) : List Char := [hexDigit (b.toNat / 16), hexDigit (b.toNat % 16)]

def hexBytes (bytes : List UInt8) : String := String.ofList (bytes.flatMap hexByte)

/-- A number in exactly `width` digits, the most significant ones dropped if they do not fit. -/
def hexPadded (width n : Nat) : String :=
  String.ofList ((List.range width).reverse.map fun i => hexDigit (n / Nat.pow 16 i % 16))

/-- Reads digit pairs into the reversed bytes `done`. -/
def readHexFrom (done : List UInt8) : List Char → Option (List UInt8)
  | [] => some done.reverse
  | [_] => none
  | a :: b :: rest =>
    match hexValue? a, hexValue? b with
    | some high, some low => readHexFrom (UInt8.ofNat (16 * high + low) :: done) rest
    | _, _ => none

/-- The bytes that a text of digit pairs denotes. -/
def readHex? (s : String) : Option (List UInt8) := readHexFrom [] s.toList

/-- The number that a nonempty text of digits denotes. -/
def readHexNumber? (s : String) : Option Nat :=
  match s.toList with
  | [] => none
  | cs => cs.foldlM (fun n c => (hexValue? c).map (16 * n + ·)) 0

end EntityForge.Text
