import EntityForge.Source.Grammar.Definition

/-!
Traits and their implementations.
-/

namespace EntityForge.Grammar

/-- Takes a member of a trait. It is unusual with words on who may see it or whether it may be
replaced. -/
def traitMember (inner : Phrases) : Rule (List Token) :=
  written do
    let attributes ← attributes inner
    let modifiers := (← visibility) ++ (← word? "default")
    let tokens ← get
    let phrase : DeclarationPhrase ←
      if isFunctionAhead false tokens then Prod.fst <$> function inner false
      else if isWordAhead "const" tokens then constant inner false
      else if isWordAhead "type" tokens then
        pure { tokens := (← typeAlias inner .behind).tokens }
      else do
        require (modifiers.isEmpty && isInvocationAhead tokens)
        pure { tokens := ← declaringInvocation false }
    return {
      tokens := attributes ++ phrase.tokens
      isKept := phrase.isKept || !modifiers.isEmpty }

/-- Takes a trait, or a name for bounds behind an equals sign. -/
def traitDeclaration (inner : Phrases) : Rule (List Token) := do
  let modifiers := (← word? "unsafe") ++ (← word? "auto")
  let head := modifiers ++ (← word "trait") ++ (← identifier) ++ (← parameters inner)
  let bound := BoundPhrase.tokens <$> inner.bound false true
  if modifiers.isEmpty && (← sees "=") then
    let sign ← operator "="
    let stops : Rule Bool := return (← ahead (isWordAhead "where")) || (← sees ";")
    let bounds ← separatedUntil stops "+" bound
    return head ++ sign ++ bounds ++ (← conditions inner) ++ (← operator ";")
  let stops := ahead fun tokens => isWordAhead "where" tokens || isGroupAhead .brace tokens
  let colon ← operator? ":"
  let bounds ← if colon.isEmpty then pure [] else separatedUntil stops "+" bound
  let head := if bounds.isEmpty then head else head ++ colon ++ bounds
  let conditions ← conditions inner
  return head ++ conditions ++ (← declarations inner (traitMember inner))

/-- Takes a member of an implementation. It is unusual without a body, a value or a type. -/
def implementationMember (inner : Phrases) : Rule (List Token) :=
  written do
    let attributes ← attributes inner
    let seen ← visibility
    let isDefault ← ahead fun tokens =>
      isWordAhead "default" tokens && !beginsWith "!" (tokens.drop 1)
    let modifiers ← if isDefault then pure (seen ++ (← anyWord)) else pure seen
    let tokens ← get
    let phrase : DeclarationPhrase ←
      if isFunctionAhead false tokens then do
        let (phrase, hasBody) ← function inner false
        pure { phrase with isKept := !hasBody }
      else if isWordAhead "const" tokens then constant inner true
      else if isWordAhead "type" tokens then do
        let named ← typeAlias inner .behind
        pure { tokens := named.tokens, isKept := named.hasBounds || !named.hasType }
      else do
        require (modifiers.isEmpty && isInvocationAhead tokens)
        pure { tokens := ← declaringInvocation false }
    return { phrase with tokens := attributes ++ modifiers ++ phrase.tokens }

/-- Whether an angle bracket opens parameters, and not a type in front of a path. -/
def isParametersAhead (tokens : List Token) : Bool :=
  let second := tokens.drop 1
  let third := tokens.drop (if isLifetimeAhead second then 3 else 2)
  beginsWith "<" tokens &&
    (beginsWith ">" second || beginsWith "#" second || isWordAhead "const" second ||
      ((isLifetimeAhead second || isIdentifierAhead second) &&
        ([">", ",", "="].any (beginsWith · third) ||
          (beginsWith ":" third && !beginsWith "::" third))))

/-- Takes an implementation. It is unusual if it has words on who may see it, if it is constant, or
if what it implements is no path. -/
def implementation (inner : Phrases) (isSeen : Bool) : Rule DeclarationPhrase := do
  let head := (← word? "default") ++ (← word? "unsafe") ++ (← word "impl")
  let parameters ← if ← ahead isParametersAhead then parameters inner else pure []
  let isConstant ← ahead fun tokens =>
    isWordAhead "const" tokens || (beginsWith "?" tokens && isWordAhead "const" (tokens.drop 1))
  let constness ← if isConstant then pure ((← operator? "?") ++ (← anyWord)) else pure []
  let isNegative ← ahead fun tokens =>
    beginsWith "!" tokens && !isGroupAhead .brace (tokens.drop 1)
  let polarity ← if isNegative then operator "!" else pure []
  let first ← inner.type true
  let isFor ← ahead (isWordAhead "for")
  require (isFor || polarity.isEmpty)
  let subject ← if isFor then pure ((← anyWord) ++ (← inner.type true).tokens) else pure []
  let tokens := head ++ parameters ++ constness ++ polarity ++ first.tokens ++ subject
  let conditions ← conditions inner
  return {
    tokens := tokens ++ conditions ++ (← declarations inner (implementationMember inner))
    isKept := isSeen || isConstant || (isFor && !first.isPath) }

end EntityForge.Grammar
