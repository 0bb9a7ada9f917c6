import EntityForge.Text.CaseMapping
import EntityForge.Text.ClusterData

/-!
Extended grapheme clusters: what a reader takes for one character. A cluster is found by one walk
over the text that keeps the class of the last character and three facts about the cluster so far.
-/

namespace EntityForge.Text

inductive ClusterClass where
  | carriageReturn | lineFeed | control
  | mark | linker | nonJoiner | joiner | spacing | prepended
  | regional | pictograph | consonant
  | leading | vowel | trailing | openSyllable | closedSyllable
  | other
  deriving DecidableEq

/-- The class of a Hangul character, by the arithmetic of its block. The vowel signs of Kirat Rai
combine as those of Hangul do. -/
def hangulClass? (code : Nat) : Option ClusterClass :=
  if (0x1100 ≤ code ∧ code ≤ 0x115F) ∨ (0xA960 ≤ code ∧ code ≤ 0xA97C) then some .leading
  else if (0x1160 ≤ code ∧ code ≤ 0x11A7) ∨ (0xD7B0 ≤ code ∧ code ≤ 0xD7C6) then some .vowel
  else if code = 0x16D63 ∨ (0x16D67 ≤ code ∧ code ≤ 0x16D6A) then some .vowel
  else if (0x11A8 ≤ code ∧ code ≤ 0x11FF) ∨ (0xD7CB ≤ code ∧ code ≤ 0xD7FB) then some .trailing
  else if 0xAC00 ≤ code ∧ code ≤ 0xD7A3 then
    some (if (code - 0xAC00) % 28 = 0 then .openSyllable else .closedSyllable)
  else none

def clusterClass (c : Char) : ClusterClass :=
  if c = '\r' then .carriageReturn
  else if c = '\n' then .lineFeed
  else if inRanges controlRanges c then .control
  else if c.toNat < 0x80 then .other
  else if c.toNat = 0x200D then .joiner
  else if c.toNat = 0x200C then .nonJoiner
  else if inRanges conjunctLinkerRanges c then .linker
  else if inRanges graphemeExtendRanges c || (0x1F3FB ≤ c.toNat && c.toNat ≤ 0x1F3FF) then .mark
  else if inRanges spacingMarkRanges c then .spacing
  else if inRanges prependRanges c then .prepended
  else if 0x1F1E6 ≤ c.toNat ∧ c.toNat ≤ 0x1F1FF then .regional
  else if inRanges pictographicRanges c then .pictograph
  else if inRanges conjunctConsonantRanges c then .consonant
  else (hangulClass? c.toNat).getD .other

structure ClusterState where
  last : ClusterClass
  /-- A pictograph followed by marks only. -/
  pictograph : Bool
  /-- A pictograph, marks and then a joiner. -/
  tied : Bool
  /-- A consonant followed by marks, linkers and joiners only. -/
  consonant : Bool
  /-- Such a consonant with a linker among them. -/
  linked : Bool
  /-- An odd number of regional indicators. -/
  oddRegional : Bool

/-- The state after one more character. -/
def ClusterState.next (s : Option ClusterState) (c : ClusterClass) : ClusterState :=
  let pictograph := s.any (·.pictograph)
  let consonant := s.any (·.consonant)
  let linked := s.any (·.linked)
  let continues := c = .mark || c = .linker || c = .joiner
  { last := c
    pictograph := c = .pictograph || pictograph && (c = .mark || c = .linker || c = .nonJoiner)
    tied := pictograph && c = .joiner
    consonant := c = .consonant || consonant && continues
    linked := consonant && continues && (linked || c = .linker)
    oddRegional := c = .regional && !s.any (·.oddRegional) }

/-- Whether a character of class `c` belongs to the cluster that ends in state `s`. -/
def ClusterState.joins (s : ClusterState) (c : ClusterClass) : Bool :=
  match s.last, c with
  | .carriageReturn, .lineFeed => true
  | .carriageReturn, _ | .lineFeed, _ | .control, _ => false
  | _, .carriageReturn | _, .lineFeed | _, .control => false
  | .leading, .leading | .leading, .vowel | .leading, .openSyllable
  | .leading, .closedSyllable => true
  | .openSyllable, .vowel | .openSyllable, .trailing | .vowel, .vowel | .vowel, .trailing => true
  | .closedSyllable, .trailing | .trailing, .trailing => true
  | _, .mark | _, .linker | _, .nonJoiner | _, .joiner | _, .spacing => true
  | .prepended, _ => true
  | _, .consonant => s.linked
  | _, .pictograph => s.tied
  | _, .regional => s.oddRegional
  | _, _ => false

/-- Cuts a text into clusters, where `current` and `done` hold the open cluster and the finished
ones, both reversed. -/
def clustersFrom (s : Option ClusterState) (current : List Char) (done : List (List Char)) :
    List Char → List (List Char)
  | [] => (if current.isEmpty then done else current.reverse :: done).reverse
  | c :: rest =>
    let kind := clusterClass c
    if s.any (·.joins kind) then
      clustersFrom (some (.next s kind)) (c :: current) done rest
    else
      let done := if current.isEmpty then done else current.reverse :: done
      clustersFrom (some (.next none kind)) [c] done rest

/-- The clusters of a text, in order. -/
def clusters (s : String) : List (List Char) := clustersFrom none [] [] s.toList

end EntityForge.Text
