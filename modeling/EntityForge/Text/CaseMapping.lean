import EntityForge.Text.CaseData

/-!
Full case mapping of text. One character may become several, and the capital sigma becomes the
final form of the letter exactly when it ends a word.
-/

namespace EntityForge.Text

/-- Whether the code point of `c` lies in one of the inclusive ranges. -/
def inRanges (ranges : List (Nat × Nat)) (c : Char) : Bool :=
  ranges.any fun (first, last) => first ≤ c.toNat && c.toNat ≤ last

/-- The image of a code point under a run, if the run covers it. -/
def CaseRun.image? (run : CaseRun) (code : Nat) : Option Nat :=
  if run.first ≤ code ∧ code ≤ run.last ∧ (code - run.first) % run.step = 0 then
    some (code + run.offset).toNat
  else
    none

/-- The mapped form of a character, itself when no entry names it. -/
def mapCase (runs : List CaseRun) (sequences : List (Nat × List Nat)) (c : Char) : List Char :=
  match runs.findSome? (·.image? c.toNat) with
  | some image => [Char.ofNat image]
  | none =>
    match sequences.lookup c.toNat with
    | some image => image.map Char.ofNat
    | none => [c]

def lowercaseChar (c : Char) : List Char := mapCase lowercaseRuns lowercaseSequences c

def uppercaseChar (c : Char) : List Char := mapCase uppercaseRuns uppercaseSequences c

def isUppercase (c : Char) : Bool := (uppercaseLetterRuns.findSome? (·.image? c.toNat)).isSome

/-- Whether the first character that is not case-ignorable is a cased one. -/
def meetsCased (cs : List Char) : Bool :=
  match cs.find? (!inRanges caseIgnorableRanges ·) with
  | some c => inRanges casedRanges c
  | none => false

/-- The lowercase form of a capital sigma between the reversed text before it and the text after. -/
def lowercaseSigma (before after : List Char) : Char :=
  if meetsCased before && !meetsCased after then 'ς' else 'σ'

/-- Lowercases `cs`, where `before` and `done` hold the text already read and already written, both
reversed. -/
def lowercaseFrom (before done : List Char) : List Char → List Char
  | [] => done.reverse
  | c :: rest =>
    let image := if c = 'Σ' then [lowercaseSigma before rest] else lowercaseChar c
    lowercaseFrom (c :: before) (image.reverse ++ done) rest

/-- The lowercase form of a text. -/
def lowercase (s : String) : String := String.ofList (lowercaseFrom [] [] s.toList)

def uppercase (s : String) : String := String.ofList (s.toList.flatMap uppercaseChar)

/-- The first character in uppercase, the rest in lowercase. -/
def capitalize (s : String) : String :=
  match s.toList with
  | [] => ""
  | c :: rest => String.ofList (uppercaseChar c) ++ lowercase (String.ofList rest)

end EntityForge.Text
