import EntityForge.Source.Token
import EntityForge.Text.CaseMapping

/-!
What stands between the tokens of source text: blanks and comments. Comments in stars nest. Some
comments are documentation, which stands for tokens: an attribute with the text of the comment.
-/

namespace EntityForge.Comment

/-- Whether a character separates tokens. -/
def isBlank (c : Char) : Bool :=
  Text.inRanges [(0x09, 0x0D), (0x20, 0x20), (0x85, 0x85), (0xA0, 0xA0), (0x1680, 0x1680),
    (0x2000, 0x200A), (0x200E, 0x200F), (0x2028, 0x2029), (0x202F, 0x202F), (0x205F, 0x205F),
    (0x3000, 0x3000)] c

/-- The kinds of comment, by what follows the slashes or the slash and star. -/
inductive Kind where
  | plain
  | inner
  | outer

/-- The kind of a comment whose beginning ends in `mark`, and the input behind the signs that show
the kind. The mark once more makes it documentation of what follows, but not twice more. -/
def kind (mark : Char) : List Char → Kind × List Char
  | '!' :: rest => (.inner, rest)
  | c :: rest =>
    if c = mark ∧ rest.head? ≠ some mark ∧ !(mark = '*' ∧ rest.head? = some '/') then (.outer, rest)
    else (.plain, c :: rest)
  | [] => (.plain, [])

def cutLine : List Char → List Char × List Char
  | [] => ([], [])
  | '\n' :: rest => ([], '\n' :: rest)
  | '\r' :: '\n' :: rest => ([], '\n' :: rest)
  | c :: rest =>
    let (line, rest) := cutLine rest
    (c :: line, rest)

/-- Cuts the input at the end of a comment in stars, inside of `depth` others. -/
def cutStars? (depth : Nat) : List Char → Option (List Char × List Char)
  | '/' :: '*' :: rest => do
    let (text, rest) ← cutStars? (depth + 1) rest
    return ('/' :: '*' :: text, rest)
  | '*' :: '/' :: rest =>
    match depth with
    | 0 => some ([], rest)
    | depth + 1 => do
      let (text, rest) ← cutStars? depth rest
      return ('*' :: '/' :: text, rest)
  | c :: rest => do
    let (text, rest) ← cutStars? depth rest
    return (c :: text, rest)
  | [] => none

/-- Reads a comment: its kind and its text. One in stars has to end. -/
def read? : List Char → Option (Kind × List Char × List Char)
  | '/' :: '/' :: rest =>
    let (kind, rest) := kind '/' rest
    some (kind, cutLine rest)
  | '/' :: '*' :: rest => do
    let (kind, rest) := kind '*' rest
    return (kind, ← cutStars? 0 rest)
  | _ => none

/-- Whether a text has a carriage return without a line feed. -/
def hasLoneReturn : List Char → Bool
  | '\r' :: '\n' :: rest => hasLoneReturn rest
  | '\r' :: _ => true
  | _ :: rest => hasLoneReturn rest
  | [] => false

/-- The tokens that a comment stands for. -/
def tokens? : Kind → List Char → Option (List Token)
  | .plain, _ => some []
  | kind, text =>
    if hasLoneReturn text then none
    else
      let inner :=
        match kind with
        | .inner => [Token.sign '!']
        | _ => []
      some (.sign '#' :: inner ++ [.group .bracket
        [.word "doc", .sign '=', .quoted (String.ofList text)]])

def isAhead : List Char → Bool
  | '/' :: '/' :: _ => true
  | '/' :: '*' :: _ => true
  | _ => false

end EntityForge.Comment
