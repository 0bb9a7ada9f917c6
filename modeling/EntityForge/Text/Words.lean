import EntityForge.Text.Cluster

/-!
Words inside an identifier. Underscores, hyphens and spaces separate words and are dropped; a
change of case or between letters and digits starts a new word, and so does the last capital of an
acronym that runs into a word.
-/

namespace EntityForge.Text

inductive Glyph where
  | separator | upper | lower | digit | caseless
  deriving DecidableEq

/-- A cluster is upper when it has two case forms and stands in the upper one; a digit when all its
characters are ASCII digits. -/
def glyph (cluster : List Char) : Glyph :=
  if cluster = ['_'] ∨ cluster = ['-'] ∨ cluster = [' '] then .separator
  else if cluster.all Char.isDigit then .digit
  else
    let text := String.ofList cluster
    let upper := uppercase text
    let lower := lowercase text
    if upper = lower then .caseless
    else if text = upper then .upper
    else if text = lower then .lower
    else .caseless

/-- Whether a word ends between two neighbours, given what follows them. -/
def endsWord (here next : Glyph) (afterNext : Option Glyph) : Bool :=
  match here, next with
  | .lower, .upper | .lower, .digit | .upper, .digit | .digit, .lower | .digit, .upper => true
  | .upper, .upper => afterNext == some .lower
  | _, _ => false

/-- Collects words from classified clusters; `current` and `done` are reversed. -/
def wordsFrom (current : List Char) (done : List (List Char)) :
    List (List Char × Glyph) → List (List Char)
  | [] => (current.reverse :: done).reverse
  | (_, .separator) :: rest => wordsFrom [] (current.reverse :: done) rest
  | (cluster, here) :: rest =>
    let current := cluster.reverse ++ current
    match rest with
    | (_, next) :: after =>
      if endsWord here next (after.head?.map (·.2)) then
        wordsFrom [] (current.reverse :: done) rest
      else
        wordsFrom current done rest
    | [] => wordsFrom current done rest

/-- The words of a text. Empty words between separators are kept; the empty text has none. -/
def words (s : String) : List String :=
  if s.isEmpty then []
  else
    (wordsFrom [] [] ((clusters s).map fun cluster => (cluster, glyph cluster))).map String.ofList

/-- The first word in lowercase, the others capitalized, with nothing between them. -/
def camelCase (s : String) : String :=
  match words s with
  | [] => ""
  | first :: rest => lowercase first ++ String.join (rest.map capitalize)

/-- All words capitalized, with nothing between them. -/
def pascalCase (s : String) : String := String.join ((words s).map capitalize)

/-- All words in lowercase, joined by `separator`. -/
def joinedCase (separator : String) (s : String) : String :=
  separator.intercalate ((words s).map lowercase)

end EntityForge.Text
