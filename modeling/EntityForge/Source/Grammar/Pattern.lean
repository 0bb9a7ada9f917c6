import EntityForge.Source.Grammar.Attribute
import EntityForge.Text.Hex

/-!
Patterns, and the names of fields, which may be numbers.
-/

namespace EntityForge.Grammar

/-! ## Fields -/

/-- The value of digits to a base, among which there may be lines. -/
def digitsValue? (base : Nat) (digits : List Char) : Option Nat := do
  let values ← (digits.filter (· ≠ '_')).mapM Text.hexValue?
  if values.isEmpty || values.any (base ≤ ·) then none
  else some (values.foldl (fun total digit => base * total + digit) 0)

/-- The number of a field, which is a literal without a suffix and below 2^32. -/
def fieldNumber? (text : List Char) : Option String := do
  let value ←
    match text with
    | '0' :: 'x' :: digits => digitsValue? 16 digits
    | '0' :: 'o' :: digits => digitsValue? 8 digits
    | '0' :: 'b' :: digits => digitsValue? 2 digits
    | digits => if digits.head? = some '_' then none else digitsValue? 10 digits
  if value < UInt32.size then some (toString value) else none

def isTokenLiteral : List Token → Bool
  | .literal _ :: _ => true
  | _ => false

def fieldNumber : Rule (List Token) := do
  match ← get with
  | .literal text :: rest =>
    let number ← fieldNumber? text.toList
    set rest
    return [.literal number]
  | _ => failure

/-! ## Ranges -/

/-- Takes the operator of a range. Three dots are an older form of a range with its end, where they
are allowed. -/
def rangeOperator (isOlder : Bool) : Rule (List Token) := do
  if ← sees "..=" then operator "..="
  else if ← sees "..." then
    require isOlder
    let _ ← operator "..."
    return Token.operator "..="
  else operator ".."

/-- Whether an operator is that of a range without its end. -/
def isHalfOpen (sign : List Token) : Bool := sign.length == 2

/-- Whether the end of a range is left out before a pattern ends. -/
def isEndLeftOut (tokens : List Token) : Bool :=
  tokens.isEmpty || ["|", "=", ",", ";"].any (beginsWith · tokens) ||
    (beginsWith ":" tokens && !beginsWith "::" tokens) || isWordAhead "if" tokens

def rangeEnd (inner : Phrases) : Rule (List Token) := do
  if ← ahead isLiteralAhead then literal
  else if ← ahead (isWordAhead "const") then return (← anyWord) ++ (← inner.block true)
  else
    require (← ahead fun tokens => beginsWith "::" tokens || beginsWith "<" tokens ||
      isIdentifierAhead tokens ||
      (wordAhead? tokens).any (["self", "Self", "super", "crate"].contains ·))
    PathPhrase.tokens <$> qualifiedPath inner true

/-- Takes the operator of a range and its end. What has no end may be all that is left out. -/
def rangeRest (inner : Phrases) (isOlder : Bool) : Rule (List Token × Bool) := do
  let sign ← rangeOperator isOlder
  if ← ahead isEndLeftOut then
    require (isHalfOpen sign)
    return (sign, true)
  return (sign ++ (← rangeEnd inner), false)

/-! ## Patterns -/

/-- Takes alternatives with lines between them, and perhaps another line in front. -/
def alternatives (inner : Phrases) : Rule PatternPhrase := do
  let line ← operator? "|"
  let all ← steps do
    let first ← inner.pattern
    if (← sees "|") && !(← sees "||") && !(← sees "|=") then
      return ((first, ← operator "|"), true)
    return ((first, []), false)
  match all with
  | [(only, _)] => return if line.isEmpty then only else { tokens := line ++ only.tokens }
  | _ => return { tokens := line ++ all.flatMap fun (p, sign) => p.tokens ++ sign }

def fieldPattern (inner : Phrases) : Rule (List Token) := do
  let marks := (← word? "box") ++ (← word? "ref") ++ (← word? "mut")
  if marks.isEmpty && (← ahead isTokenLiteral) then
    return (← fieldNumber) ++ (← operator ":") ++ (← alternatives inner).tokens
  let name ← identifier
  if marks.isEmpty && (← sees ":") then
    return name ++ (← operator ":") ++ (← alternatives inner).tokens
  return marks ++ name

/-- Takes the patterns of fields in braces. Dots at the end stand for the others. -/
def fieldPatterns (inner : Phrases) : Rule (List Token) :=
  grouped .brace do
    let all ← steps do
      if ← atEnd then return ([], false)
      let attributes ← attributes inner
      if ← sees ".." then return (attributes ++ (← operator ".."), false)
      let field ← fieldPattern inner
      if ← atEnd then return (attributes ++ field, false)
      return (attributes ++ field ++ (← operator ","), true)
    return all.flatten

def pathPattern (inner : Phrases) : Rule PatternPhrase := do
  let path ← qualifiedPath inner true
  if !path.isQualified && path.isPlain && (← sees "!") && !(← sees "!=") then
    return { tokens := path.tokens ++ (← operator "!") ++ (← anyGroup).2 }
  if ← ahead (isGroupAhead .brace) then
    return { tokens := path.tokens ++ (← fieldPatterns inner) }
  if ← ahead (isGroupAhead .parenthesis) then
    let items ← grouped .parenthesis (commaSeparated (PatternPhrase.tokens <$> alternatives inner))
    return { tokens := path.tokens ++ items }
  if ← sees ".." then
    let (rest, isOpenRange) ← rangeRest inner true
    return { tokens := path.tokens ++ rest, isOpenRange }
  return { tokens := path.tokens }

/-- Whether a path is in front that is more than a name to bind. -/
def isPathPatternAhead (tokens : List Token) : Bool :=
  let behind := tokens.drop 1
  beginsWith "::" tokens || beginsWith "<" tokens ||
    (wordAhead? tokens).any (["Self", "super", "crate"].contains ·) ||
    (isWordAhead "self" tokens && beginsWith "::" behind) ||
    (isIdentifierAhead tokens && (["::", "!", ".."].any (beginsWith · behind) ||
      isGroupAhead .brace behind || isGroupAhead .parenthesis behind))

/-- Takes a name to bind, perhaps with a pattern for what it is bound to. -/
def binding (inner : Phrases) : Rule PatternPhrase := do
  let marks := (← word? "ref") ++ (← word? "mut")
  let name ← if ← ahead (isWordAhead "self") then anyWord else identifier
  if ← sees "@" then
    return { tokens := marks ++ name ++ (← operator "@") ++ (← inner.pattern).tokens }
  return { tokens := marks ++ name }

/-- Takes the patterns of items in brackets. A range that is open at one side is none of them. -/
def slicePattern (inner : Phrases) : Rule (List Token) :=
  grouped .bracket (commaSeparated do
    let item ← alternatives inner
    require !item.isOpenRange
    return item.tokens)

def pattern (inner : Phrases) : Rule PatternPhrase := do
  let tokens ← get
  if isPathPatternAhead tokens then pathPattern inner
  else if isLiteralAhead tokens || isWordAhead "const" tokens then
    let start ← rangeEnd inner
    if ← sees ".." then
      let (rest, isOpenRange) ← rangeRest inner true
      return { tokens := start ++ rest, isOpenRange }
    return { tokens := start }
  else
    match tokens, wordAhead? tokens with
    | _, some "_" => return { tokens := ← anyWord }
    | _, some "box" => return { tokens := (← anyWord) ++ (← inner.pattern).tokens }
    | _, some _ => binding inner
    | .group .parenthesis _ :: _, none =>
      let items := commaSeparated (PatternPhrase.tokens <$> alternatives inner)
      return { tokens := ← grouped .parenthesis items }
    | .group .bracket _ :: _, none => return { tokens := ← slicePattern inner }
    | _, none =>
      if beginsWith "&" tokens then
        let head := (← operator "&") ++ (← word? "mut")
        return { tokens := head ++ (← inner.pattern).tokens }
      let (rest, isEndOpen) ← rangeRest inner false
      return { tokens := rest, isOpenRange := !isEndOpen }

end EntityForge.Grammar
