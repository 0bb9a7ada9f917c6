import EntityForge.Source.Grammar.Expression

/-!
What declarations are made of, and functions.
-/

namespace EntityForge.Grammar

/-- A declaration. One in an unusual form is kept as it was read. -/
structure DeclarationPhrase where
  tokens : List Token
  isKept : Bool := false

/-- The tokens of what a rule takes: as they are written again, or as they were read. -/
def written (rule : Rule DeclarationPhrase) : Rule (List Token) := do
  let before ← get
  let phrase ← rule
  let rest ← get
  return if phrase.isKept then before.take (before.length - rest.length) else phrase.tokens

/-! ## Parts of declarations -/

/-- Takes words on who may see a declaration. A parenthesis that names no place is a type behind
them. -/
def visibility : Rule (List Token) := do
  if !(← ahead (isWordAhead "pub")) then return []
  let head ← anyWord
  match ← get with
  | .group .parenthesis [.word text] :: _ =>
    if ["crate", "self", "super"].contains text then return head ++ (← anyGroup).2
    else return head
  | .group .parenthesis (.word "in" :: _) :: _ =>
    return head ++ (← grouped .parenthesis do return (← anyWord) ++ (← plainPath))
  | _ => return head

/-- Takes a name, in place of which there may be a line. -/
def nameOrBlank : Rule (List Token) :=
  wordThat fun text => text = "_" || !Identifier.reserved.contains text

def parameters? (inner : Phrases) : Rule (Option (List Argument)) := do
  if ← sees "<" then return some (← angled (parameter inner)) else return none

/-- The tokens of parameters. Empty brackets are not written again. -/
def parameterTokens : Option (List Argument) → List Token
  | some (a :: as) => Argument.angled (a :: as)
  | _ => []

def parameters (inner : Phrases) : Rule (List Token) := parameterTokens <$> parameters? inner

def isConditionEnd (tokens : List Token) : Bool :=
  tokens.isEmpty || isGroupAhead .brace tokens || [",", ";", "="].any (beginsWith · tokens) ||
    (beginsWith ":" tokens && !beginsWith "::" tokens)

/-- Takes one condition: bounds on a lifetime or a type. -/
def condition (inner : Phrases) : Rule (List Token) := do
  let isEnd := ahead isConditionEnd
  if ← ahead fun tokens => isLifetimeAhead tokens && beginsWith ":" (tokens.drop 2) then
    return (← lifetime) ++ (← operator ":") ++ (← plusSeparated isEnd lifetime)
  let head := (← binder? inner) ++ (← inner.type true).tokens ++ (← operator ":")
  return head ++ (← plusSeparated isEnd (BoundPhrase.tokens <$> inner.bound false true))

def conditions? (inner : Phrases) : Rule (Option (List Token)) := do
  if !(← ahead (isWordAhead "where")) then return none
  let head ← anyWord
  let all ← steps do
    if ← ahead isConditionEnd then return ([], false)
    let first ← condition inner
    if ← sees "," then return (first ++ (← operator ","), true)
    return (first, false)
  return some (if all.flatten.isEmpty then [] else head ++ all.flatten)

def conditions (inner : Phrases) : Rule (List Token) := (·.getD []) <$> conditions? inner

/-- Takes declarations in braces, in front of which there may be attributes of what encloses
them. -/
def declarations (inner : Phrases) (declaration : Rule (List Token)) : Rule (List Token) :=
  grouped .brace do
    let attributes ← enclosingAttributes inner
    let all ← steps do
      if ← atEnd then return ([], false)
      return (← declaration, true)
    return attributes ++ all.flatten

def isInvocationAhead (tokens : List Token) : Bool :=
  isIdentifierAhead tokens || beginsWith "::" tokens ||
    (wordAhead? tokens).any (["self", "super", "crate"].contains ·)

/-- Takes an invocation that declares, perhaps under a name. Only braces need no semicolon behind
them. -/
def declaringInvocation (isNamed : Bool) : Rule (List Token) := do
  let head := (← plainPath) ++ (← operator "!")
  let name ←
    if isNamed && (← ahead fun tokens => isIdentifierAhead tokens || isWordAhead "try" tokens) then
      anyWord
    else pure []
  let (delimiter, group) ← anyGroup
  return head ++ name ++ group ++ (← if delimiter = .brace then pure [] else operator ";")

/-! ## Functions -/

def behindWord (text : String) (tokens : List Token) : List Token :=
  if isWordAhead text tokens then tokens.drop 1 else tokens

def isFunctionAhead (mayBeSafe : Bool) (tokens : List Token) : Bool :=
  let behind := behindWord "async" (behindWord "const" tokens)
  let behind :=
    if mayBeSafe && isWordAhead "safe" behind then behind.drop 1 else behindWord "unsafe" behind
  match behind with
  | .word "extern" :: .literal text :: rest => isTextLiteral text && isWordAhead "fn" rest
  | .word "extern" :: rest => isWordAhead "fn" rest
  | rest => isWordAhead "fn" rest

def receiver (inner : Phrases) : Rule (List Token) := do
  let sign ← operator? "&"
  let reference ← if sign.isEmpty then pure [] else pure (sign ++ (← lifetime?))
  let head := reference ++ (← word? "mut") ++ (← word "self")
  if sign.isEmpty && (← sees ":") then
    return head ++ (← operator ":") ++ (← inner.type true).tokens
  return head

def others : Rule (List Token) := do
  let dots ← operator "..."
  return dots ++ (← operator? ",")

/-- Takes one argument of a function, and answers whether others may follow it. One that is only a
type has no name. -/
def functionInput (inner : Phrases) (isFirst : Bool) : Rule (List Token × Bool) := do
  if ← sees "..." then return (← others, false)
  match ← (some <$> receiver inner) <|> pure none with
  | some object =>
    require isFirst
    return (object, true)
  | none =>
    if ← ahead fun tokens => isIdentifierAhead tokens && beginsWith "<" (tokens.drop 1) then
      return ([.word "_", .sign ':'] ++ (← inner.type true).tokens, true)
    let name := (← inner.pattern).tokens ++ (← operator ":")
    if ← sees "..." then return (name ++ (← others), false)
    return (name ++ (← inner.type true).tokens, true)

/-- Takes the arguments of a function. Only the first may be the object. -/
def functionInputs (inner : Phrases) : Rule (List Token) := do
  let count := (← get).length
  let all ← steps do
    if ← atEnd then return ([], false)
    let isFirst ← ahead (·.length == count)
    let attributes ← attributes inner
    let (tokens, goesOn) ← functionInput inner isFirst
    if !goesOn || (← atEnd) then return (attributes ++ tokens, false)
    return (attributes ++ tokens ++ (← operator ","), true)
  return all.flatten

/-- Takes the head of a function, up to its conditions. -/
def functionHead (inner : Phrases) (mayBeSafe : Bool) : Rule DeclarationPhrase := do
  let head := (← word? "const") ++ (← word? "async")
  let safe ← if mayBeSafe then word? "safe" else pure []
  let safety ← if safe.isEmpty then word? "unsafe" else pure safe
  let name := (← convention?) ++ (← word "fn") ++ (← identifier)
  let parameters ← parameters inner
  let inputs ← grouped .parenthesis (functionInputs inner)
  let result := ((← returned inner true).map (·.tokens)).getD []
  let tokens := head ++ safety ++ name ++ parameters ++ inputs ++ result ++ (← conditions inner)
  return { tokens, isKept := !safe.isEmpty }

/-- Takes a function. In place of its body there may be a semicolon. -/
def function (inner : Phrases) (mayBeSafe : Bool) : Rule (DeclarationPhrase × Bool) := do
  let head ← functionHead inner mayBeSafe
  if ← sees ";" then return ({ head with tokens := head.tokens ++ (← operator ";") }, false)
  return ({ head with tokens := head.tokens ++ (← inner.block true) }, true)

end EntityForge.Grammar
