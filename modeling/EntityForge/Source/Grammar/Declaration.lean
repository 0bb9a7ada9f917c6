import EntityForge.Source.Grammar.Trait

/-!
Declarations: all those of functions, constants, types and traits, and modules, imports, and
invocations that declare.
-/

namespace EntityForge.Grammar

/-! ## Modules and imports -/

/-- Takes a tree of imported names, with groups up to a depth. It is unusual if a path inside a
group begins with double colons. -/
def importTree : (depth : Nat) → (mayBeRooted : Bool) → Rule DeclarationPhrase
  | 0, _ => failure
  | depth + 1, mayBeRooted => do
    if ← sees "*" then return { tokens := ← operator "*" }
    if ← ahead (isGroupAhead .brace) then
      let items : List DeclarationPhrase ← inside .brace (steps do
        if ← atEnd then return ({ tokens := [] }, false)
        let root ← if mayBeRooted then operator? "::" else pure []
        let tree ← importTree depth (mayBeRooted && root.isEmpty)
        let comma ← if ← atEnd then pure [] else operator ","
        let tokens := root ++ tree.tokens ++ comma
        return ({ tokens, isKept := tree.isKept || !root.isEmpty }, !comma.isEmpty))
      return {
        tokens := [.group .brace (items.flatMap (·.tokens))]
        isKept := items.any (·.isKept) }
    let name ← wordThat fun text => !Identifier.reserved.contains text ||
      ["self", "super", "crate", "try"].contains text
    if ← sees "::" then
      let colons ← operator "::"
      let tree ← importTree depth false
      return { tree with tokens := name ++ colons ++ tree.tokens }
    if ← ahead (isWordAhead "as") then
      let role ← anyWord
      return { tokens := name ++ role ++ (← nameOrBlank) }
    return { tokens := name }

def importing : Rule DeclarationPhrase := do
  let head ← word "use"
  let root ← operator? "::"
  let tree ← importTree (Token.sizeAll (← get) + 1) root.isEmpty
  return { tree with tokens := head ++ root ++ tree.tokens ++ (← operator ";") }

def libraryImport : Rule (List Token) := do
  let head := (← word "extern") ++ (← word "crate")
  let name ← if ← ahead (isWordAhead "self") then anyWord else identifier
  let rename ←
    if ← ahead (isWordAhead "as") then pure ((← anyWord) ++ (← nameOrBlank)) else pure []
  return head ++ name ++ rename ++ (← operator ";")

/-- Takes a module, which may be in another file. -/
def moduleDeclaration (inner : Phrases) : Rule (List Token) := do
  let head := (← word? "unsafe") ++ (← word "mod")
  let name ← if ← ahead (isWordAhead "try") then anyWord else identifier
  if ← sees ";" then return head ++ name ++ (← operator ";")
  return head ++ name ++ (← declarations inner inner.declaration)

/-- Takes a static value of another language. It is unusual with a value, or a word on its
safety. -/
def foreignValue (inner : Phrases) : Rule DeclarationPhrase := do
  let safety ← if ← ahead (isWordAhead "static") then pure [] else anyWord
  let name := (← word "static") ++ (← word? "mut") ++ (← identifier) ++ (← operator ":")
  let type ← inner.type true
  let value ← default? inner.value
  return {
    tokens := safety ++ name ++ type.tokens ++ value ++ (← operator ";")
    isKept := !safety.isEmpty || !value.isEmpty }

/-- Takes the declaration of what is defined in another language. It is unusual with its
definition. -/
def foreignMember (inner : Phrases) : Rule (List Token) :=
  written do
    let attributes ← attributes inner
    let seen ← visibility
    let tokens ← get
    let isValue := isWordAhead "static" tokens ||
      ((isWordAhead "unsafe" tokens || isWordAhead "safe" tokens) &&
        isWordAhead "static" (tokens.drop 1))
    let phrase : DeclarationPhrase ←
      if isFunctionAhead true tokens then do
        let (phrase, hasBody) ← function inner true
        pure { phrase with isKept := phrase.isKept || hasBody }
      else if isValue then foreignValue inner
      else if isWordAhead "type" tokens then do
        let named ← typeAlias inner .either
        pure { tokens := named.tokens, isKept := named.hasBounds || named.hasType }
      else do
        require (seen.isEmpty && isInvocationAhead tokens)
        pure { tokens := ← declaringInvocation false }
    return { phrase with tokens := attributes ++ seen ++ phrase.tokens }

/-- Takes declarations of what is defined in another language. -/
def foreignModule (inner : Phrases) : Rule (List Token) := do
  let head := (← word? "unsafe") ++ (← convention?)
  return head ++ (← declarations inner (foreignMember inner))

/-- Takes a definition by patterns of tokens. -/
def tokenPattern : Rule (List Token) := do
  let head := (← anyWord) ++ (← identifier)
  let inputs ← if ← ahead (isGroupAhead .parenthesis) then Prod.snd <$> anyGroup else pure []
  require (← ahead (isGroupAhead .brace))
  return head ++ inputs ++ (← anyGroup).2

/-! ## Declarations -/

/-- Takes a declaration behind its attributes and the words on who may see it. -/
def declared (inner : Phrases) (isSeen : Bool) : Rule DeclarationPhrase := do
  let tokens ← get
  let second := tokens.drop 1
  if isFunctionAhead false tokens then
    let (phrase, hasBody) ← function inner false
    return { phrase with isKept := !hasBody }
  match (wordAhead? tokens).getD "" with
  | "extern" =>
    if isWordAhead "crate" second then return { tokens := ← libraryImport }
    require !isSeen
    return { tokens := ← foreignModule inner }
  | "unsafe" =>
    if isWordAhead "impl" second then implementation inner isSeen
    else if isWordAhead "trait" second || isWordAhead "auto" second then
      return { tokens := ← traitDeclaration inner }
    else if isWordAhead "extern" second then
      require !isSeen
      return { tokens := ← foreignModule inner }
    else return { tokens := ← moduleDeclaration inner }
  | "use" => importing
  | "static" => staticValue inner
  | "const" => constant inner true
  | "type" =>
    let named ← typeAlias inner .before
    return { tokens := named.tokens, isKept := named.hasBounds || !named.hasType }
  | "impl" => implementation inner isSeen
  | "mod" => return { tokens := ← moduleDeclaration inner }
  | "struct" => return { tokens := ← structureType inner }
  | "enum" => return { tokens := ← enumeration inner }
  | "trait" => return { tokens := ← traitDeclaration inner }
  | "macro" => return { tokens := ← tokenPattern, isKept := true }
  | text =>
    if text = "union" && isIdentifierAhead second then return { tokens := ← unionType inner }
    if text = "auto" && isWordAhead "trait" second then
      return { tokens := ← traitDeclaration inner }
    if text = "default" && !beginsWith "!" second then return ← implementation inner isSeen
    require (!isSeen && isInvocationAhead tokens)
    return { tokens := ← declaringInvocation true }

def declaration (inner : Phrases) : Rule (List Token) :=
  written do
    let attributes ← attributes inner
    let seen ← visibility
    let phrase ← declared inner !seen.isEmpty
    return { phrase with tokens := attributes ++ seen ++ phrase.tokens }

end EntityForge.Grammar
