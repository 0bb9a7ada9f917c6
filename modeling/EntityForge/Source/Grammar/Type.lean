import EntityForge.Source.Grammar.Attribute

/-!
Types and the bounds on them.
-/

namespace EntityForge.Grammar

/-! ## Bounds -/

/-- Takes the bounds of a parameter up to where they stop, and the colon in front of them if there
are any. -/
def parameterBounds (stops : Rule Bool) (bound : Rule (List Token)) : Rule (List Token) := do
  let colon ← operator? ":"
  if colon.isEmpty then return []
  let bounds ← plusSeparated stops bound
  return if bounds.isEmpty then [] else colon ++ bounds

/-- Takes a value in front of which there is an equals sign, if it is there. -/
def default? (value : Rule (List Token)) : Rule (List Token) := do
  let sign ← operator? "="
  if sign.isEmpty then return [] else return sign ++ (← value)

def parameter (inner : Phrases) : Rule Argument := do
  let attributes ← attributes inner
  let stops : Rule Bool := return (← atEnd) || (← sees ",") || (← sees ">")
  if ← ahead isLifetimeAhead then
    let tokens := (← lifetime) ++ (← parameterBounds stops lifetime)
    return ⟨attributes ++ tokens, true, false⟩
  else if ← ahead (isWordAhead "const") then
    let head := (← anyWord) ++ (← identifier) ++ (← operator ":")
    let type ← inner.type true
    let value := do
      if ← ahead isIdentifierAhead then identifier else constantArgument inner
    return ⟨attributes ++ head ++ type.tokens ++ (← default? value), false, false⟩
  else
    let name ← identifier
    let stops : Rule Bool := return (← stops) || (← sees "=")
    let bounds ← parameterBounds stops (BoundPhrase.tokens <$> inner.bound false true)
    let value ← default? (TypePhrase.tokens <$> inner.type true)
    return ⟨attributes ++ name ++ bounds ++ value, false, false⟩

/-- Takes the parameters that a type is general in. -/
def binder (inner : Phrases) : Rule (List Token) := do
  let head := (← word "for") ++ (← operator "<")
  let parameters ← separatedUntil (sees ">") "," (Argument.tokens <$> parameter inner)
  return head ++ parameters ++ (← operator ">")

/-- Takes the parameters that a type is general in, if they are there. -/
def binder? (inner : Phrases) : Rule (List Token) := do
  if ← ahead (isWordAhead "for") then binder inner else return []

/-- Takes a mark for constant traits, if it is there. -/
def constness? : Rule (List Token) := do
  if ← ahead (isWordAhead "const") then anyWord
  else if ← ahead (isGroupAhead .bracket) then grouped .bracket (word "const")
  else return []

/-- Takes a bound on a trait, perhaps with arguments in parentheses. A trait that may be missing has
no parameters in front of it. -/
def traitBound (inner : Phrases) (constants : Bool) : Rule (List Token) := do
  let binder ← binder? inner
  let constness ← constness?
  let mark ← operator? "?"
  require ((constants || constness.isEmpty) && (binder.isEmpty || mark.isEmpty))
  let path ← path inner false
  let path ←
    if path.isOpen && (← ahead isParenthesized) then
      pure (path.withArguments (← parenthesized inner).1)
    else pure path
  return binder ++ constness ++ mark ++ path.tokens

/-- Takes a bound: a lifetime, the names that a type captures, or a trait. -/
def bound (inner : Phrases) (captures constants : Bool) : Rule BoundPhrase := do
  if ← ahead isLifetimeAhead then return ⟨← lifetime, false⟩
  if ← ahead (isWordAhead "use") then
    require captures
    let head ← anyWord
    let names ← angled do
      if ← ahead isLifetimeAhead then return ⟨← lifetime, true, false⟩
      return ⟨← wordThat fun text => text = "Self" || !Identifier.reserved.contains text, false,
        false⟩
    return ⟨head ++ Argument.angled names, false⟩
  if ← ahead (isGroupAhead .parenthesis) then
    return ⟨← grouped .parenthesis (traitBound inner constants), true⟩
  return ⟨← traitBound inner constants, true⟩

def isBoundAhead (tokens : List Token) : Bool :=
  (wordAhead? tokens).isSome || beginsWith "::" tokens || beginsWith "?" tokens ||
    isLifetimeAhead tokens || isGroupAhead .parenthesis tokens

/-- Takes bounds with pluses in front of them. A plus without a bound ends them where it may. -/
def furtherBounds (inner : Phrases) (endsInPlus : Bool) : Rule (List Token) := do
  let all ← steps do
    if !(← sees "+") then return ([], false)
    let plus ← operator "+"
    if endsInPlus && !(← ahead isBoundAhead) then return (plus, false)
    return (plus ++ (← inner.bound false false).tokens, true)
  return all.flatten

/-- Takes bounds, one of which has to be a trait. A plus goes on only where one may. -/
def bounds (inner : Phrases) (plus captures : Bool) : Rule (List Token) := do
  let all ← steps do
    let bound ← inner.bound captures true
    if !(plus && (← sees "+")) then return (bound, false)
    let bound := { bound with tokens := bound.tokens ++ (← operator "+") }
    return (bound, ← ahead fun tokens => isBoundAhead tokens || isGroupAhead .bracket tokens)
  require (all.any (·.isTrait))
  return all.flatMap (·.tokens)

/-! ## Types -/

/-- Takes an argument of a function type, perhaps with a name. The first may be the object itself.
-/
def functionArgument (inner : Phrases) (isFirst : Bool) : Rule (List Token) := do
  let mutable ←
    if isFirst && (← ahead fun tokens =>
        isWordAhead "mut" tokens && isWordAhead "self" (tokens.drop 1)) then anyWord
    else pure []
  let isNamed (tokens : List Token) : Bool :=
    (isIdentifierAhead tokens || isWordAhead "_" tokens ||
        (isFirst && isWordAhead "self" tokens)) &&
      beginsWith ":" (tokens.drop 1) && !beginsWith "::" (tokens.drop 1)
  let name ← if ← ahead isNamed then pure ((← anyWord) ++ (← operator ":")) else pure []
  if !mutable.isEmpty && name.isEmpty then return mutable ++ (← word "self")
  return mutable ++ name ++ (← inner.type true).tokens

/-- Whether dots for any other arguments are in front, perhaps with a name. -/
def isOthersAhead (tokens : List Token) : Bool :=
  beginsWith "..." tokens || ((isIdentifierAhead tokens || isWordAhead "_" tokens) &&
    beginsWith ":" (tokens.drop 1) && beginsWith "..." (tokens.drop 2))

/-- Takes the arguments of a function type. Dots at the end stand for any others. -/
def functionArguments (inner : Phrases) : Rule (List Token) := do
  let count := (← get).length
  let all ← steps do
    if ← atEnd then return ([], false)
    let isFirst ← ahead (·.length == count)
    let attributes ← attributes inner
    if ← ahead isOthersAhead then
      let name ← if ← sees "..." then pure [] else pure ((← anyWord) ++ (← operator ":"))
      return (attributes ++ name ++ (← operator "...") ++ (← operator? ","), false)
    let argument ← functionArgument inner isFirst
    if ← atEnd then return (attributes ++ argument, false)
    return (attributes ++ argument ++ (← operator ","), true)
  return all.flatten

def isTextLiteral (text : String) : Bool := text.startsWith "\"" || text.startsWith "r"

/-- Takes a calling convention, if it is there. Its name may be left out. -/
def convention? : Rule (List Token) := do
  let word ← word? "extern"
  match ← get with
  | .literal text :: _ =>
    if !word.isEmpty && isTextLiteral text then return word ++ (← literal) else return word
  | _ => return word

/-- Takes a function type, behind the parameters it is general in. -/
def functionType (inner : Phrases) (binder : List Token) : Rule TypePhrase := do
  let head := binder ++ (← word? "unsafe") ++ (← convention?) ++ (← word "fn")
  let arguments ← grouped .parenthesis (functionArguments inner)
  let result ← returned inner false
  return { tokens := head ++ arguments ++ (result.map (·.tokens)).getD [] }

/-- Whether a type can begin with the name in front. -/
def isNameAhead (tokens : List Token) : Bool :=
  isIdentifierAhead tokens ||
    (wordAhead? tokens).any (["super", "self", "Self", "crate"].contains ·)

/-- Takes a path or an invocation as a type, or bounds that begin with a path. -/
def namedType (inner : Phrases) (plus : Bool) (binder : List Token) : Rule TypePhrase := do
  let path ← typePath inner
  if path.isQualified then return { tokens := path.tokens }
  if path.isPlain && (← sees "!") && !(← sees "!=") then
    let mark ← operator "!"
    return { tokens := path.tokens ++ mark ++ (← anyGroup).2 }
  let first := binder ++ path.tokens
  if plus && (← sees "+") then return { tokens := first ++ (← furtherBounds inner true) }
  let isPath := binder.isEmpty
  let isName := isPath && path.isName &&
    path.segments.all fun s => !isGroupAhead .parenthesis (s.arguments?.getD [])
  return { tokens := first, isPath, isName, bound? := some first }

/-- Takes a bound in parentheses and those behind it. -/
def enclosedBound (inner : Phrases) (bound : List Token) : Rule TypePhrase := do
  let others ← furtherBounds inner false
  return {
    tokens := .group .parenthesis bound :: others
    bound? := if others.isEmpty then some bound else none }

/-- Takes a type that begins with a parenthesis: a trait that may be missing, a tuple, or a type,
which may be the first of several bounds. -/
def enclosedType (inner : Phrases) (plus : Bool) : Rule TypePhrase := do
  if let .group .parenthesis (.mark '?' _ :: _) :: _ ← get then
    enclosedBound inner (← inside .parenthesis (traitBound inner false))
  else
    let (tokens, type?) ← inside .parenthesis do
      if ← atEnd then return ([], none)
      if ← ahead isLifetimeAhead then
        let tokens ← bounds inner true false
        return (tokens, some { tokens })
      let first ← inner.type true
      if ← sees "," then
        let comma ← operator ","
        let others ← commaSeparated (TypePhrase.tokens <$> inner.type true)
        return (first.tokens ++ comma ++ others, none)
      return (first.tokens, some first)
    match type?.bind (·.bound?) with
    | some bound => if plus && (← sees "+") then return ← enclosedBound inner bound
    | none => pure ()
    return { tokens := [.group .parenthesis tokens], isEnclosed := type?.isSome }

/-- Takes a type in brackets: a slice, or an array of some length. -/
def sequenceType (inner : Phrases) : Rule (List Token) :=
  grouped .bracket do
    let item ← inner.type true
    if ← sees ";" then return item.tokens ++ (← operator ";") ++ (← inner.value)
    return item.tokens

/-- Takes a type that begins with an operator: a pointer, a reference, or the type without values.
-/
def operatorType (inner : Phrases) : Rule (List Token) := do
  if ← sees "*" then
    let sign ← operator "*"
    let access ← wordThat fun text => text = "const" || text = "mut"
    return sign ++ access ++ (← inner.type false).tokens
  else if ← sees "&" then
    let head := (← operator "&") ++ (← lifetime?) ++ (← word? "mut")
    return head ++ (← inner.type false).tokens
  else operator "!"

def type (inner : Phrases) (plus : Bool) : Rule TypePhrase := do
  let binder ← binder? inner
  let tokens ← get
  match tokens, wordAhead? tokens with
  | _, some "fn" | _, some "unsafe" | _, some "extern" => functionType inner binder
  | _, some _ =>
    if isNameAhead tokens then return ← namedType inner plus binder
    require binder.isEmpty
    if isWordAhead "dyn" tokens then
      let head ← anyWord
      if ← sees "*" then
        let rest ← asRead do
          let _ ← operator "*"
          bounds inner plus false
        return { tokens := head ++ rest }
      return { tokens := head ++ (← bounds inner plus false) }
    else if isWordAhead "impl" tokens then
      return { tokens := (← anyWord) ++ (← bounds inner plus true) }
    else return { tokens := ← word "_" }
  | .group .parenthesis _ :: _, none =>
    require binder.isEmpty
    enclosedType inner plus
  | .group .bracket _ :: _, none =>
    require binder.isEmpty
    return { tokens := ← sequenceType inner }
  | _, none =>
    require binder.isEmpty
    if isLifetimeAhead tokens then return { tokens := ← bounds inner true false }
    if beginsWith "::" tokens || beginsWith "<" tokens then return ← namedType inner plus binder
    return { tokens := ← operatorType inner }

end EntityForge.Grammar
