import EntityForge.Source.Grammar.Function

/-!
Definitions of constants and of types.
-/

namespace EntityForge.Grammar

def constant (inner : Phrases) (needsValue : Bool) : Rule DeclarationPhrase := do
  let name := (← word "const") ++ (← nameOrBlank)
  let parameters ← parameters? inner
  let type := (← operator ":") ++ (← inner.type true).tokens
  let value ← default? inner.value
  let conditions ← conditions? inner
  let tokens := name ++ parameterTokens parameters ++ type ++ value ++ conditions.getD []
  return {
    tokens := tokens ++ (← operator ";")
    isKept := parameters.isSome || conditions.isSome || (needsValue && value.isEmpty) }

/-- Takes a static value. It is unusual without its type or its value. -/
def staticValue (inner : Phrases) : Rule DeclarationPhrase := do
  let name := (← word "static") ++ (← word? "mut") ++ (← identifier)
  let type ← if ← sees "=" then pure [] else pure ((← operator ":") ++ (← inner.type true).tokens)
  let value ← default? inner.value
  return {
    tokens := name ++ type ++ value ++ (← operator ";")
    isKept := type.isEmpty || value.isEmpty }

/-- Where the conditions of a name for a type may stand: in front of the type, behind it, or at
either place. -/
inductive ConditionPlace where
  | before
  | behind
  | either
deriving DecidableEq

structure AliasPhrase where
  tokens : List Token
  hasBounds : Bool
  hasType : Bool

def typeAlias (inner : Phrases) (place : ConditionPlace) : Rule AliasPhrase := do
  let head := (← word "type") ++ (← identifier) ++ (← parameters inner)
  let hasBounds ← sees ":"
  let stops : Rule Bool := return (← ahead (isWordAhead "where")) || (← sees "=") || (← sees ";")
  let bounds ← parameterBounds stops (BoundPhrase.tokens <$> inner.bound false true)
  let before ← if place = .behind then pure none else conditions? inner
  let type ← default? (TypePhrase.tokens <$> inner.type true)
  let behind ← if place = .before || before.isSome then pure none else conditions? inner
  let tokens := head ++ bounds ++ before.getD [] ++ type ++ behind.getD []
  return ⟨tokens ++ (← operator ";"), hasBounds, !type.isEmpty⟩

/-- Takes a field with its name. A field without one may be a structure of its own. -/
def namedField (inner : Phrases) (fields : Rule (List Token)) : Rule (List Token) := do
  let head := (← attributes inner) ++ (← visibility)
  let isBlank ← ahead (isWordAhead "_")
  let name := (← nameOrBlank) ++ (← operator ":")
  let isNested ← ahead fun tokens => isBlank && (isWordAhead "struct" tokens ||
    (isWordAhead "union" tokens && isGroupAhead .brace (tokens.drop 1)))
  if isNested then return head ++ name ++ (← asRead (anyWord *> fields))
  return head ++ name ++ (← inner.type true).tokens

/-- Takes fields in braces, with structures inside them up to a depth. -/
def namedFieldsWithin (inner : Phrases) : (depth : Nat) → Rule (List Token)
  | 0 => failure
  | depth + 1 => grouped .brace (commaSeparated (namedField inner (namedFieldsWithin inner depth)))

def namedFields (inner : Phrases) : Rule (List Token) := do
  namedFieldsWithin inner (Token.sizeAll (← get) + 1)

def numberedFields (inner : Phrases) : Rule (List Token) :=
  grouped .parenthesis (commaSeparated do
    let head := (← attributes inner) ++ (← visibility)
    return head ++ (← inner.type true).tokens)

def structureType (inner : Phrases) : Rule (List Token) := do
  let head := (← word "struct") ++ (← identifier) ++ (← parameters inner)
  if ← ahead (isGroupAhead .parenthesis) then
    let fields ← numberedFields inner
    return head ++ fields ++ (← conditions inner) ++ (← operator ";")
  let head := head ++ (← conditions inner)
  if ← ahead (isGroupAhead .brace) then return head ++ (← namedFields inner)
  return head ++ (← operator ";")

def unionType (inner : Phrases) : Rule (List Token) := do
  let head := (← word "union") ++ (← identifier) ++ (← parameters inner) ++ (← conditions inner)
  return head ++ (← namedFields inner)

/-- Takes one form of an enumeration. Words on who may see it are not written again. -/
def variant (inner : Phrases) : Rule (List Token) := do
  let attributes ← attributes inner
  let _ ← visibility
  let name ← identifier
  let fields ←
    if ← ahead (isGroupAhead .brace) then namedFields inner
    else if ← ahead (isGroupAhead .parenthesis) then numberedFields inner
    else pure []
  return attributes ++ name ++ fields ++ (← default? inner.value)

def enumeration (inner : Phrases) : Rule (List Token) := do
  let head := (← word "enum") ++ (← identifier) ++ (← parameters inner) ++ (← conditions inner)
  return head ++ (← grouped .brace (commaSeparated (variant inner)))

end EntityForge.Grammar
