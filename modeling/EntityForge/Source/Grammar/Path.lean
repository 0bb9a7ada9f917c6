import EntityForge.Source.Grammar.Phrase

/-!
Paths: names with double colons between them and arguments in angle brackets behind them. In front
of a path there may be a type in angle brackets.
-/

namespace EntityForge.Grammar

structure Segment where
  name : List Token
  arguments? : Option (List Token) := none
  isOpen : Bool := true

/-- A path. What is in front of its first name is a type in angle brackets, double colons, both or
nothing. -/
structure PathPhrase where
  front : List Token
  isQualified : Bool := false
  segments : List Segment

namespace PathPhrase

def tokens (p : PathPhrase) : List Token :=
  p.front ++ ((p.segments.map fun s => s.name ++ s.arguments?.getD []).intersperse
    (Token.operator "::")).flatten

def isPlain (p : PathPhrase) : Bool := p.segments.all (·.arguments?.isNone)

/-- Whether there is one name and nothing in front of it. -/
def isName (p : PathPhrase) : Bool := p.front.isEmpty && p.segments.length == 1

/-- Whether the last name has no arguments, or empty brackets for them. -/
def isOpen (p : PathPhrase) : Bool := p.segments.getLast?.any (·.isOpen)

/-- The path with other arguments behind its last name. -/
def withArguments (p : PathPhrase) (arguments : List Token) : PathPhrase :=
  match p.segments.reverse with
  | last :: others =>
    { p with segments := (⟨last.name, some arguments, false⟩ :: others).reverse }
  | [] => p

end PathPhrase

/-! ## Arguments -/

structure Argument where
  tokens : List Token
  isLifetime : Bool
  isFollowed : Bool

/-- The tokens of arguments. All but the last have a comma behind them. -/
def Argument.joined : List Argument → List Token
  | [] => []
  | [a] => a.tokens ++ (if a.isFollowed then Token.operator "," else [])
  | a :: as => a.tokens ++ Token.operator "," ++ joined as

/-- The tokens of arguments in angle brackets. Lifetimes are written first. -/
def Argument.angled (arguments : List Argument) : List Token :=
  let ordered := arguments.filter (·.isLifetime) ++ arguments.filter (!·.isLifetime)
  Token.operator "<" ++ joined ordered ++ Token.operator ">"

def angled (argument : Rule Argument) : Rule (List Argument) := do
  let _ ← operator "<"
  let arguments ← steps do
    if ← sees ">" then return ([], false)
    let argument ← argument
    if ← sees ">" then return ([argument], false)
    let _ ← operator ","
    return ([{ argument with isFollowed := true }], true)
  let _ ← operator ">"
  return arguments.flatten

/-- Takes what may follow the name of a parameter: its value, or bounds on it. -/
def constraint (inner : Phrases) : Rule (List Token) := do
  if ← sees "=" then
    let sign ← operator "="
    if ← ahead isConstantAhead then return sign ++ (← constantArgument inner)
    return sign ++ (← inner.type true).tokens
  else if ← sees ":" then
    let sign ← operator ":"
    let stops : Rule Bool := return (← sees ",") || (← sees ">")
    return sign ++ (← plusSeparated stops (BoundPhrase.tokens <$> inner.bound false true))
  else return []

def argument (inner : Phrases) : Rule Argument := do
  if (← ahead isLifetimeAhead) && !(← ahead fun tokens => beginsWith "+" (tokens.drop 2)) then
    return ⟨← lifetime, true, false⟩
  if ← ahead isConstantAhead then return ⟨← constantArgument inner, false, false⟩
  let type ← inner.type true
  if type.isName then return ⟨type.tokens ++ (← constraint inner), false, false⟩
  return ⟨type.tokens, false, false⟩

def returned (inner : Phrases) (plus : Bool) : Rule (Option TypePhrase) := do
  if ← sees "->" then
    let arrow ← operator "->"
    let type ← inner.type plus
    return some { type with tokens := arrow ++ type.tokens }
  else return none

/-- Whether arguments in parentheses are in front, with or without double colons. -/
def isParenthesized (tokens : List Token) : Bool :=
  isGroupAhead .parenthesis tokens ||
    (beginsWith "::" tokens && isGroupAhead .parenthesis (tokens.drop 2))

/-- Takes the types in parentheses that a function takes, and what it returns. Double colons in
front of them are not written again. -/
def parenthesized (inner : Phrases) : Rule (List Token × Option TypePhrase) := do
  let _ ← operator? "::"
  let taken ← grouped .parenthesis (commaSeparated (TypePhrase.tokens <$> inner.type true))
  let result ← returned inner false
  return (taken ++ (result.map (·.tokens)).getD [], result)

/-! ## Paths -/

/-- Words that name a place and take no arguments. -/
def roots : List String := ["crate", "self", "super", "try"]

/-- Whether arguments in angle brackets are in front. In an expression a bracket on its own is an
operator, so double colons come first. -/
def isAngled (inExpression : Bool) (tokens : List Token) : Bool :=
  (!inExpression && beginsWith "<" tokens && !beginsWith "<=" tokens && !beginsWith "<<=" tokens) ||
    (beginsWith "::" tokens && beginsWith "<" (tokens.drop 2))

def segment (inner : Phrases) (inExpression : Bool) : Rule Segment := do
  if ← ahead fun tokens => (wordAhead? tokens).any roots.contains then
    return { name := ← anyWord }
  let name ← if ← ahead (isWordAhead "Self") then anyWord else identifier
  if ← ahead (isAngled inExpression) then
    let colons ← operator? "::"
    let arguments ← angled (argument inner)
    return ⟨name, some (colons ++ Argument.angled arguments), arguments.isEmpty⟩
  return { name }

/-- Takes names with double colons between them. Colons in front of a parenthesis are left alone,
unless a type is in front of the path. -/
def segments (inner : Phrases) (inExpression isQualified : Bool) : Rule (List Segment) :=
  steps do
    let first ← segment inner inExpression
    if (← sees "::") && (isQualified || !(← ahead isParenthesized)) then
      let _ ← operator "::"
      return (first, true)
    return (first, false)

def path (inner : Phrases) (inExpression : Bool) : Rule PathPhrase := do
  let front ← operator? "::"
  return { front, segments := ← segments inner inExpression false }

/-- Takes a path, in front of which there may be a type in angle brackets. -/
def qualifiedPath (inner : Phrases) (inExpression : Bool) : Rule PathPhrase := do
  if ← sees "<" then
    let opening ← operator "<"
    let type ← inner.type true
    let role ← word? "as"
    let trait ← if role.isEmpty then pure [] else PathPhrase.tokens <$> path inner false
    let closing ← operator ">"
    let colons ← operator "::"
    let front := opening ++ type.tokens ++ role ++ trait ++ closing ++ colons
    return { front, isQualified := true, segments := ← segments inner inExpression true }
  path inner inExpression

/-- Takes the path of a type, in which names may have arguments in parentheses. The path goes on
behind them only if they return nothing, or a type in parentheses. -/
def typePath (inner : Phrases) : Rule PathPhrase := do
  grow (fun p => do
    if !p.isOpen || !(← ahead isParenthesized) then return none
    let (arguments, result) ← parenthesized inner
    let p := p.withArguments arguments
    if (result.map (·.isEnclosed)).getD true && (← sees "::") && !(← ahead isParenthesized) then
      let _ ← operator "::"
      return some { p with segments := p.segments ++ (← segments inner false false) }
    return some p) (← qualifiedPath inner false)

/-- Takes a path without arguments. Words that name a place are names on it. -/
def plainPath : Rule (List Token) := do
  let front ← operator? "::"
  let names ← steps do
    let name ← wordThat fun text =>
      !Identifier.reserved.contains text || ["super", "self", "Self", "crate"].contains text
    if ← sees "::" then return (name ++ (← operator "::"), true)
    return (name, false)
  return front ++ names.flatten

end EntityForge.Grammar
