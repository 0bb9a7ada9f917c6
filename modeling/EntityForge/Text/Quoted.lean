import EntityForge.Text.ClusterData
import EntityForge.Text.PrintableData
import EntityForge.Text.CaseMapping

/-!
Quoted text for diagnostics and listings. Control characters, characters without a printed form and
combining marks are written as escapes, so that a quoted text is always legible.
-/

namespace EntityForge.Text

/-- A number in lowercase hexadecimal without leading zeros. -/
def hexNumber (n : Nat) : List Char := Nat.toDigits 16 n

/-- Whether a character shows on the one before it. The halfwidth sound marks continue a cluster and
yet have a place of their own. -/
def isCombining (c : Char) : Bool :=
  inRanges graphemeExtendRanges c && !(0xFF9E ≤ c.toNat && c.toNat ≤ 0xFF9F)

def isLegible (c : Char) : Bool := !(inRanges unprintableRanges c || isCombining c)

/-- A character inside quotation marks `mark`, which are themselves escaped. -/
def escapeChar (mark : Char) (c : Char) : List Char :=
  match c with
  | '\t' => ['\\', 't']
  | '\r' => ['\\', 'r']
  | '\n' => ['\\', 'n']
  | '\\' => ['\\', '\\']
  | '\x00' => ['\\', '0']
  | _ =>
    if c = mark then ['\\', c]
    else if isLegible c then [c]
    else ['\\', 'u', '\x7b'] ++ hexNumber c.toNat ++ ['\x7d']

def quote (s : String) : String :=
  String.ofList ('"' :: s.toList.flatMap (escapeChar '"') ++ ['"'])

/-- A character in single quotation marks. -/
def quoteChar (c : Char) : String :=
  String.ofList ('\'' :: escapeChar '\'' c ++ ['\''])

end EntityForge.Text
