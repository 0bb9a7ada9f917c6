import EntityForge.Source.Grammar.Declaration

/-!
Statements: declarations, bindings, invocations and expressions.
-/

namespace EntityForge.Grammar

/-- A statement, and whether another one can only come behind a semicolon. -/
structure StatementPhrase where
  tokens : List Token
  isUnfinished : Bool

/-- Takes a binding of names. If its value does not end in a brace, a block for what does not match
may follow. -/
def localBinding (inner : Phrases) : Rule (List Token) := do
  let names := (← word "let") ++ (← inner.pattern).tokens
  let type ← if ← sees ":" then pure ((← operator ":") ++ (← inner.type true).tokens) else pure []
  let value ←
    if ← sees "=" then
      let sign ← operator "="
      let value ← inner.expression true
      let otherwise ←
        if !value.endsInBrace && (← ahead (isWordAhead "else")) then
          pure ((← anyWord) ++ (← inner.block false))
        else pure []
      pure (sign ++ value.tokens ++ otherwise)
    else pure []
  return names ++ type ++ value ++ (← operator ";")

def isDeclarationAhead (tokens : List Token) : Bool :=
  let second := tokens.drop 1
  let third := tokens.drop 2
  let isSecond (texts : List String) : Bool := (wordAhead? second).any texts.contains
  let isThird (texts : List String) : Bool := (wordAhead? third).any texts.contains
  match wordAhead? tokens with
  | some text =>
    if ["pub", "extern", "use", "fn", "mod", "type", "struct", "enum", "trait", "impl",
      "macro"].contains text then true
    else
      match text with
      | "crate" => !beginsWith "::" second
      | "static" => isSecond ["mut"] || isIdentifierAhead second
      | "const" =>
        !(isGroupAhead .brace second || beginsWith "|" second || isSecond ["static", "move"] ||
          (isSecond ["async"] && !isThird ["unsafe", "extern", "fn"]))
      | "unsafe" => !isGroupAhead .brace second
      | "async" => isSecond ["unsafe", "extern", "fn"]
      | "union" => isIdentifierAhead second
      | "auto" => isSecond ["trait"]
      | "default" => isSecond ["unsafe", "impl"]
      | _ => false
  | none => false

inductive Invocation where
  | declares
  | ends
  | continues

/-- The kind of invocation that is in front. One with a name behind the mark is a declaration; one
in braces ends the statement, unless a dot or a question mark follows. -/
def invocationAhead? (tokens : List Token) : Option Invocation := do
  let (_, rest) ← plainPath.run tokens
  if !beginsWith "!" rest then none
  else
    let behind := rest.drop 1
    let follower := behind.drop 1
    if isIdentifierAhead behind || isWordAhead "try" behind then some .declares
    else if isGroupAhead .brace behind && !beginsWith "?" follower &&
        (!beginsWith "." follower || beginsWith ".." follower) then some .ends
    else some .continues

def expressionStatement (inner : Phrases) : Rule StatementPhrase := do
  let e ← inner.leading
  let semicolon ← operator? ";"
  let isBlock := e.form = .block || e.form = .invocation .brace
  return ⟨e.tokens ++ semicolon, semicolon.isEmpty && !isBlock⟩

def statement (inner : Phrases) : Rule StatementPhrase := do
  let start ← get
  let attributes ← attributes inner
  let tokens ← get
  let kind ← pure (invocationAhead? tokens)
  if kind matches some .declares || (!(kind matches some .ends) && isDeclarationAhead tokens) then
    set start
    return ⟨← inner.declaration, false⟩
  let rest ←
    if kind matches some .ends then
      let head := (← plainPath) ++ (← operator "!") ++ (← anyGroup).2
      pure ⟨head ++ (← operator? ";"), false⟩
    else if isWordAhead "let" tokens then pure ⟨← localBinding inner, false⟩
    else expressionStatement inner
  return { rest with tokens := attributes ++ rest.tokens }

/-- Takes statements to the end of the input, in front of which there may be attributes of the
block. A semicolon on its own is a statement. -/
def statements (inner : Phrases) (hasAttributes : Bool) : Rule (List Token) := do
  let attributes ← if hasAttributes then enclosingAttributes inner else pure []
  let all ← steps do
    if ← sees ";" then return (← operator ";", true)
    if ← atEnd then return ([], false)
    let next ← statement inner
    if ← atEnd then return (next.tokens, false)
    require !next.isUnfinished
    return (next.tokens, true)
  return attributes ++ all.flatten

end EntityForge.Grammar
