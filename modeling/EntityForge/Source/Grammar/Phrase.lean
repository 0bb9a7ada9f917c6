import EntityForge.Source.Grammar.Rule

/-!
The phrases that nest in one another: types, expressions, patterns and statements. A rule for one of
them is given the rules for those inside.
-/

namespace EntityForge.Grammar

/-- A type. It may be a path, and perhaps a single name with or without arguments in angle brackets;
it may stand in parentheses; and it may be one bound on a trait, the tokens of which are then
known. -/
structure TypePhrase where
  tokens : List Token
  isPath : Bool := false
  isName : Bool := false
  isEnclosed : Bool := false
  bound? : Option (List Token) := none

structure BoundPhrase where
  tokens : List Token
  isTrait : Bool

/-- What an expression is, as far as what may stand around it depends on that. A block is what can
be a statement without a semicolon. -/
inductive ExpressionForm where
  | block
  | invocation (delimiter : Delimiter)
  | range
  | comparison
  | other
deriving DecidableEq

structure ExpressionPhrase where
  tokens : List Token
  form : ExpressionForm := .other

/-- Whether an expression ends in a brace. -/
def ExpressionPhrase.endsInBrace (e : ExpressionPhrase) : Bool :=
  match e.tokens.getLast? with
  | some (.group .brace _) => true
  | _ => false

/-- A pattern. A range may be open at one side. -/
structure PatternPhrase where
  tokens : List Token
  isOpenRange : Bool := false

/-- How tightly operators hold their sides together, from the loosest on. -/
inductive Precedence where
  | jump
  | assignment
  | range
  | disjunction
  | conjunction
  | binding
  | comparison
  | bitOr
  | bitXor
  | bitAnd
  | shift
  | sum
  | product
  | cast
deriving DecidableEq, Ord

/-- Whether an operator holds at least as tightly as another. -/
def Precedence.atLeast (p q : Precedence) : Bool := (compare p q).isGE

/-- The rules for the phrases inside others. A type may take bounds behind a plus, or not; a bound
may capture names, or be on a constant trait, or not; an expression may be the fields of a structure
in braces, or not. An operand is an expression without operators between its sides, which a tail
completes; a leading expression ends at the brace of a block. Statements may have attributes of the
block in front. -/
structure Phrases where
  type (plus : Bool) : Rule TypePhrase
  bound (captures constants : Bool) : Rule BoundPhrase
  pattern : Rule PatternPhrase
  operand (structures : Bool) : Rule ExpressionPhrase
  tail (structures : Bool) (base : Precedence) (left : ExpressionPhrase) : Rule ExpressionPhrase
  leading : Rule ExpressionPhrase
  statements (attributes : Bool) : Rule (List Token)
  declaration : Rule (List Token)

namespace Phrases

def expression (inner : Phrases) (structures : Bool) : Rule ExpressionPhrase := do
  inner.tail structures .jump (← inner.operand structures)

def value (inner : Phrases) : Rule (List Token) := ExpressionPhrase.tokens <$> inner.expression true

/-- Statements in braces, in front of which there may be attributes of the block. -/
def block (inner : Phrases) (attributes : Bool) : Rule (List Token) :=
  grouped .brace (inner.statements attributes)

end Phrases

/-- Takes the argument of a constant parameter: a literal or a block. -/
def constantArgument (inner : Phrases) : Rule (List Token) := do
  if ← ahead isLiteralAhead then literal else inner.block true

def isConstantAhead (tokens : List Token) : Bool :=
  isLiteralAhead tokens || isGroupAhead .brace tokens

end EntityForge.Grammar
