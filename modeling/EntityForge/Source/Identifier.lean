import EntityForge.Text.CaseMapping
import EntityForge.Text.IdentifierData

/-!
Identifiers of source text, and the words that are none. A raw identifier has a mark in front and
may be almost any word.
-/

namespace EntityForge.Identifier

def reserved : List String :=
  ["_", "abstract", "as", "async", "await", "become", "box", "break", "const", "continue", "crate",
   "do", "dyn", "else", "enum", "extern", "false", "final", "fn", "for", "if", "impl", "in", "let",
   "loop", "macro", "match", "mod", "move", "mut", "override", "priv", "pub", "ref", "return",
   "Self", "self", "static", "struct", "super", "trait", "true", "try", "type", "typeof", "unsafe",
   "unsized", "use", "virtual", "where", "while", "yield"]

/-- Words that name a place, so that a mark cannot turn them into other names. -/
def places : List String := ["_", "crate", "self", "super", "Self"]

def isStart (c : Char) : Bool := c = '_' || Text.inRanges Text.identifierStartRanges c

def isPart (c : Char) : Bool := isStart c || Text.inRanges Text.identifierPartRanges c

def word? : List Char → Option (String × List Char)
  | [] => none
  | c :: rest =>
    if isStart c then
      some (String.ofList (c :: rest.takeWhile isPart), rest.dropWhile isPart)
    else none

def skipWord (cs : List Char) : List Char := (word? cs).elim cs (·.2)

def read? : List Char → Option (String × List Char)
  | 'r' :: '#' :: rest => do
    let (name, rest) ← word? rest
    if places.contains name then none else some ("r#" ++ name, rest)
  | cs => word? cs

end EntityForge.Identifier
