import EntityForge.Source.Grammar.Statement

/-!
The whole grammar: its rules, each given those for the phrases one level further in.
-/

namespace EntityForge.Grammar

/-- The rules for phrases that nest at most so deep. -/
def Phrases.within : (depth : Nat) → Phrases
  | 0 => {
      type := fun _ => failure
      bound := fun _ _ => failure
      pattern := failure
      operand := fun _ => failure
      tail := fun _ _ _ => failure
      leading := failure
      statements := fun _ => failure
      declaration := failure }
  | depth + 1 => {
      type := fun plus tokens => Grammar.type (within depth) plus tokens
      bound := fun captures constants tokens =>
        Grammar.bound (within depth) captures constants tokens
      pattern := fun tokens => Grammar.pattern (within depth) tokens
      operand := fun structures tokens => Grammar.operand (within depth) structures tokens
      tail := fun structures base left tokens =>
        Grammar.tail (within depth) structures base left tokens
      leading := fun tokens => Grammar.leading (within depth) tokens
      statements := fun attributes tokens => Grammar.statements (within depth) attributes tokens
      declaration := fun tokens => Grammar.declaration (within depth) tokens }

/-- Reads all tokens as one phrase. A phrase nests in others only behind a token, but for a few
kinds that begin with one another. -/
def readAll? (rule : Phrases → Rule α) (tokens : List Token) : Option α := do
  let (answer, rest) ← rule (.within (8 * (Token.sizeAll tokens + 1))) tokens
  if rest.isEmpty then some answer else none

end EntityForge.Grammar
