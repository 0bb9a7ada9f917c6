import EntityForge.Source.Identifier
import EntityForge.Source.Token

/-!
Rules of a grammar over tokens. A rule takes tokens off the front of the input, or it refuses. What
it answers are mostly the tokens as they are written again: a mark is joint only inside an operator.
-/

namespace EntityForge.Grammar

/-- A rule: it takes tokens off the front and answers, or it refuses. -/
abbrev Rule (α : Type) := StateT (List Token) Option α

/-! ## What is ahead -/

def marksBegin : List Char → List Token → Bool
  | [], _ => true
  | [c], .mark d _ :: _ => c = d
  | c :: cs, .mark d joint :: tokens => c = d && joint && marksBegin cs tokens
  | _, _ => false

/-- Whether tokens begin with an operator, which may be the beginning of a longer one. -/
def beginsWith (operator : String) (tokens : List Token) : Bool :=
  marksBegin operator.toList tokens

def wordAhead? : List Token → Option String
  | .word text :: _ => some text
  | _ => none

def isWordAhead (text : String) (tokens : List Token) : Bool := wordAhead? tokens = some text

def isIdentifierAhead (tokens : List Token) : Bool :=
  (wordAhead? tokens).any (!Identifier.reserved.contains ·)

def isLifetimeAhead : List Token → Bool
  | .mark '\'' true :: .word _ :: _ => true
  | _ => false

def isGroupAhead (delimiter : Delimiter) : List Token → Bool
  | .group d _ :: _ => d = delimiter
  | _ => false

def ahead (test : List Token → Bool) : Rule Bool := return test (← get)

def sees (operator : String) : Rule Bool := ahead (beginsWith operator)

def atEnd : Rule Bool := ahead (·.isEmpty)

/-! ## Single tokens -/

/-- Refuses unless a condition holds. -/
def require (condition : Bool) : Rule Unit := if condition then pure () else failure

def operator (text : String) : Rule (List Token) := do
  require (← sees text)
  modify (·.drop text.length)
  return Token.operator text

/-- Takes an operator, if it is there. -/
def operator? (text : String) : Rule (List Token) := do
  if ← sees text then operator text else return []

def wordThat (test : String → Bool) : Rule (List Token) := do
  match ← get with
  | .word text :: rest =>
    require (test text)
    set rest
    return [.word text]
  | _ => failure

def anyWord : Rule (List Token) := wordThat fun _ => true

def word (text : String) : Rule (List Token) := wordThat (· = text)

def word? (text : String) : Rule (List Token) := do
  if ← ahead (isWordAhead text) then anyWord else return []

def identifier : Rule (List Token) := wordThat (!Identifier.reserved.contains ·)

def lifetime : Rule (List Token) := do
  match ← get with
  | .mark '\'' true :: .word name :: rest =>
    set rest
    return [.mark '\'' true, .word name]
  | _ => failure

def lifetime? : Rule (List Token) := do
  if ← ahead isLifetimeAhead then lifetime else return []

def isNumber (text : String) : Bool := text.toList.head?.any fun c => '0' ≤ c && c ≤ '9'

/-- The literal in front, and what is behind it. A truth value is one, and so is a number behind a
minus. -/
def literalAhead? : List Token → Option (List Token × List Token)
  | .literal text :: rest => some ([.literal text], rest)
  | .mark '-' _ :: .literal text :: rest =>
    if isNumber text then some ([.sign '-', .literal text], rest) else none
  | .word text :: rest =>
    if text = "true" ∨ text = "false" then some ([.word text], rest) else none
  | _ => none

def isLiteralAhead (tokens : List Token) : Bool := (literalAhead? tokens).isSome

def literal : Rule (List Token) := do
  let (taken, rest) ← literalAhead? (← get)
  set rest
  return taken

/-! ## Groups and repetition -/

/-- Takes a group, whose inside has to be read to its end. -/
def inside (delimiter : Delimiter) (rule : Rule α) : Rule α := do
  match ← get with
  | .group d tokens :: rest =>
    require (d = delimiter)
    let (answer, left) ← rule.run tokens
    require left.isEmpty
    set rest
    return answer
  | _ => failure

/-- Takes a group, and answers it with what the rule for its inside answers. -/
def grouped (delimiter : Delimiter) (rule : Rule (List Token)) : Rule (List Token) :=
  return [.group delimiter (← inside delimiter rule)]

def anyGroup : Rule (Delimiter × List Token) := do
  match ← get with
  | .group delimiter tokens :: rest =>
    set rest
    return (delimiter, [.group delimiter tokens])
  | _ => failure

/-- The tokens that a rule takes, as they are. -/
def asRead (rule : Rule α) : Rule (List Token) := do
  let before ← get
  let _ ← rule
  return before.take (before.length - (← get).length)

/-- Takes steps as long as they go on. -/
def stepsWithin (step : Rule (α × Bool)) : (fuel : Nat) → Rule (List α)
  | 0 => failure
  | fuel + 1 => do
    let (answer, goesOn) ← step
    if goesOn then return answer :: (← stepsWithin step fuel) else return [answer]

/-- Takes steps as long as they go on. Each step that is not the last takes a token. -/
def steps (step : Rule (α × Bool)) : Rule (List α) := do
  stepsWithin step ((← get).length + 1)

/-- Changes an answer as long as a rule has another one. -/
def growWithin (step : α → Rule (Option α)) : (fuel : Nat) → α → Rule α
  | 0, answer => return answer
  | fuel + 1, answer => do
    match ← step answer with
    | some answer => growWithin step fuel answer
    | none => return answer

/-- Changes an answer as long as a rule has another one, for which it takes a token. -/
def grow (step : α → Rule (Option α)) (answer : α) : Rule α := do
  growWithin step ((← get).length + 1) answer

/-- Takes items with a separator between them up to where they stop, perhaps with another separator
at the end. -/
def separatedUntil (stops : Rule Bool) (separator : String) (item : Rule (List Token)) :
    Rule (List Token) := do
  let items ← steps do
    if ← stops then return ([], false)
    let first ← item
    if ← stops then return (first, false)
    return (first ++ (← operator separator), true)
  return items.flatten

/-- Takes items with commas between them to the end of the input. -/
def commaSeparated (item : Rule (List Token)) : Rule (List Token) := separatedUntil atEnd "," item

/-- Takes items with pluses between them, as long as a plus is there and they do not stop. -/
def plusSeparated (stops : Rule Bool) (item : Rule (List Token)) : Rule (List Token) := do
  let items ← steps do
    if ← stops then return ([], false)
    let first ← item
    if ← sees "+" then return (first ++ (← operator "+"), true)
    return (first, false)
  return items.flatten

end EntityForge.Grammar
