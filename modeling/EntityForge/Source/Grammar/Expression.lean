import EntityForge.Source.Grammar.Pattern
import EntityForge.Source.Grammar.Type

/-!
Expressions. An operand is an expression with what stands close around it; a tail adds operators and
the operands behind them, those that hold more tightly first.
-/

namespace EntityForge.Grammar

/-! ## Simple expressions -/

/-- Takes a field of a value that is built, or the dots in front of the value for the others. -/
def fieldValue (inner : Phrases) : Rule (List Token) := do
  let attributes ← attributes inner
  let number? ← ahead isTokenLiteral
  let name ← if number? then fieldNumber else identifier
  if number? || (← sees ":") then
    return attributes ++ name ++ (← operator ":") ++ (← inner.value)
  return attributes ++ name

def fieldValues (inner : Phrases) : Rule (List Token) :=
  grouped .brace do
    let all ← steps do
      if ← atEnd then return ([], false)
      if ← sees ".." then
        let dots ← operator ".."
        if ← atEnd then return (dots, false)
        return (dots ++ (← inner.value), false)
      let field ← fieldValue inner
      if ← atEnd then return (field, false)
      return (field ++ (← operator ","), true)
    return all.flatten

def pathExpression (inner : Phrases) (structures : Bool) : Rule ExpressionPhrase := do
  let path ← qualifiedPath inner true
  if !path.isQualified && path.isPlain && (← sees "!") && !(← sees "!=") then
    let mark ← operator "!"
    let (delimiter, group) ← anyGroup
    return { tokens := path.tokens ++ mark ++ group, form := .invocation delimiter }
  if structures && (← ahead (isGroupAhead .brace)) then
    return { tokens := path.tokens ++ (← fieldValues inner) }
  return { tokens := path.tokens }

/-- Takes an expression in brackets: items, or one item that is repeated. -/
def sequence (inner : Phrases) : Rule (List Token) :=
  grouped .bracket do
    if ← atEnd then return []
    let first ← inner.value
    if ← atEnd then return first
    if ← sees ";" then return first ++ (← operator ";") ++ (← inner.value)
    return first ++ (← operator ",") ++ (← commaSeparated inner.value)

/-- Whether the end of a range is left out in an expression. -/
def isRangeEndLeftOut (structures : Bool) (tokens : List Token) : Bool :=
  tokens.isEmpty || (!structures && isGroupAhead .brace tokens) || isWordAhead "as" tokens ||
    (beginsWith "." tokens && !beginsWith ".." tokens) ||
    [",", ";", "?", "=>", "=", "+", "/", "%", "^", ">", "<=", "!=", "-=", "*=", "&=", "|=",
      "<<="].any (beginsWith · tokens)

/-! ## Operators -/

/-- The operators that stand between two sides; a longer one comes before its beginning. -/
def binaryOperators : List (String × Precedence) :=
  [("+=", .assignment), ("-=", .assignment), ("*=", .assignment), ("/=", .assignment),
   ("%=", .assignment), ("^=", .assignment), ("&=", .assignment), ("|=", .assignment),
   ("<<=", .assignment), (">>=", .assignment), ("&&", .conjunction), ("||", .disjunction),
   ("<<", .shift), (">>", .shift), ("==", .comparison), ("<=", .comparison), ("!=", .comparison),
   (">=", .comparison), ("+", .sum), ("-", .sum), ("*", .product), ("/", .product),
   ("%", .product), ("^", .bitXor), ("&", .bitAnd), ("|", .bitOr), ("<", .comparison),
   (">", .comparison)]

/-- The operator between two sides that is in front. -/
def binaryAhead? (tokens : List Token) : Option (String × Precedence) :=
  binaryOperators.find? fun (text, _) => beginsWith text tokens

def isAssignmentAhead (tokens : List Token) : Bool :=
  beginsWith "=" tokens && !beginsWith "=>" tokens

/-- How tightly the operator in front holds. -/
def precedenceAhead (tokens : List Token) : Precedence :=
  match binaryAhead? tokens with
  | some (_, precedence) => precedence
  | none =>
    if isAssignmentAhead tokens then .assignment
    else if beginsWith ".." tokens then .range
    else if isWordAhead "as" tokens then .cast
    else .jump

/-- Takes the side behind an operator. Operators that hold more tightly belong to it, and
assignments to the side of an assignment. -/
def rightSide (inner : Phrases) (structures : Bool) (base : Precedence) :
    Rule ExpressionPhrase := do
  grow (fun side => do
    let before ← get
    let next := precedenceAhead before
    if next = base && base ≠ .assignment || !next.atLeast base then return none
    let side ← inner.tail structures next side
    if (← get).length = before.length then return none
    return some side) (← inner.operand structures)

/-- Takes the end of a range, if it is there. -/
def rangeBound (inner : Phrases) (structures : Bool) (sign : List Token) : Rule (List Token) := do
  if isHalfOpen sign && (← ahead (isRangeEndLeftOut structures)) then return []
  ExpressionPhrase.tokens <$> rightSide inner structures .range

/-- Whether something is in front that would hold more tightly than the conversion behind which it
stands. -/
def isTightAhead (tokens : List Token) : Bool :=
  (beginsWith "." tokens && !beginsWith ".." tokens) || beginsWith "?" tokens ||
    isGroupAhead .bracket tokens || isGroupAhead .parenthesis tokens

/-- Takes one operator and the side behind it, unless it holds less tightly than `base`. Comparisons
do not chain, and a range is no left side. -/
def tailStep (inner : Phrases) (structures : Bool) (base : Precedence) (left : ExpressionPhrase) :
    Rule (Option ExpressionPhrase) := do
  let tokens ← get
  match binaryAhead? tokens with
  | some (text, precedence) =>
    if !precedence.atLeast base || (precedence = .assignment && left.form = .range) then
      return none
    require !(precedence = .comparison && left.form = .comparison)
    let sign ← operator text
    let right ← rightSide inner structures precedence
    let form := if precedence = .comparison then .comparison else .other
    return some { tokens := left.tokens ++ sign ++ right.tokens, form }
  | none =>
    if Precedence.assignment.atLeast base && isAssignmentAhead tokens then
      if left.form = .range then return none
      let sign ← operator "="
      let right ← rightSide inner structures .assignment
      return some { tokens := left.tokens ++ sign ++ right.tokens }
    else if Precedence.range.atLeast base && beginsWith ".." tokens then
      if left.form = .range then return none
      let sign ← rangeOperator false
      let right ← rangeBound inner structures sign
      return some { tokens := left.tokens ++ sign ++ right, form := .range }
    else if Precedence.cast.atLeast base && isWordAhead "as" tokens then
      let sign ← anyWord
      let type ← inner.type false
      require !(← ahead isTightAhead)
      return some { tokens := left.tokens ++ sign ++ type.tokens }
    else return none

/-- Takes operators and the sides behind them. -/
def tail (inner : Phrases) (structures : Bool) (base : Precedence) (left : ExpressionPhrase) :
    Rule ExpressionPhrase :=
  grow (tailStep inner structures base) left

/-! ## Control -/

/-- Takes a condition and blocks, and further conditions or a last block for what is left. -/
def conditional (inner : Phrases) : Rule (List Token) := do
  let all ← steps do
    let head := (← word "if") ++ (← inner.expression false).tokens ++ (← inner.block false)
    if !(← ahead (isWordAhead "else")) then return (head, false)
    let otherwise ← anyWord
    if ← ahead (isWordAhead "if") then return (head ++ otherwise, true)
    return (head ++ otherwise ++ (← inner.block false), false)
  return all.flatten

/-- Takes one case of a choice. Only a block needs no comma behind it. -/
def choiceCase (inner : Phrases) : Rule (List Token) := do
  let attributes ← attributes inner
  let pattern ← alternatives inner
  let guard ←
    if ← ahead (isWordAhead "if") then pure ((← anyWord) ++ (← inner.value)) else pure []
  let arrow ← operator "=>"
  let body ← inner.leading
  let isOptional := body.form = .block || (← atEnd)
  let comma ← if isOptional then operator? "," else operator ","
  return attributes ++ pattern.tokens ++ guard ++ arrow ++ body.tokens ++ comma

def choice (inner : Phrases) : Rule (List Token) := do
  let head := (← word "match") ++ (← inner.expression false).tokens
  let cases ← grouped .brace do
    let attributes ← enclosingAttributes inner
    let all ← steps do
      if ← atEnd then return ([], false)
      return (← choiceCase inner, true)
    return attributes ++ all.flatten
  return head ++ cases

/-- Takes a loop, behind its label. -/
def repetition (inner : Phrases) : Rule (List Token) := do
  match wordAhead? (← get) with
  | some "loop" => return (← anyWord) ++ (← inner.block true)
  | some "while" =>
    let head := (← anyWord) ++ (← inner.expression false).tokens
    return head ++ (← inner.block true)
  | some "for" =>
    let head := (← anyWord) ++ (← alternatives inner).tokens ++ (← word "in")
    return head ++ (← inner.expression false).tokens ++ (← inner.block true)
  | _ => failure

/-- Takes a loop or a block with a label in front. -/
def labelled (inner : Phrases) : Rule (List Token) := do
  let label := (← lifetime) ++ (← operator ":")
  if ← ahead (isGroupAhead .brace) then return label ++ (← inner.block true)
  return label ++ (← repetition inner)

def isExpressionAhead (tokens : List Token) : Bool :=
  ((wordAhead? tokens).isSome && !isWordAhead "as" tokens) ||
    isGroupAhead .parenthesis tokens || isGroupAhead .bracket tokens ||
    isGroupAhead .brace tokens || isLiteralAhead tokens || isLifetimeAhead tokens ||
    (beginsWith "!" tokens && !beginsWith "!=" tokens) ||
    (beginsWith "-" tokens && !beginsWith "-=" tokens && !beginsWith "->" tokens) ||
    (beginsWith "*" tokens && !beginsWith "*=" tokens) ||
    (beginsWith "|" tokens && !beginsWith "|=" tokens) ||
    (beginsWith "&" tokens && !beginsWith "&=" tokens) ||
    (beginsWith "<" tokens && !beginsWith "<=" tokens && !beginsWith "<<=" tokens) ||
    ["..", "::", "#"].any (beginsWith · tokens)

/-- Takes a word that ends the run of a block or a function, and the value that it hands on. A loop
may be named, but behind its label no other loop is. -/
def jump (inner : Phrases) (structures : Bool) : Rule (List Token) := do
  let isBreak ← ahead (isWordAhead "break")
  let head ← anyWord
  let label ← if isBreak then lifetime? else pure []
  require (label.isEmpty || !(← sees ":"))
  let hasValue ← ahead fun tokens =>
    isExpressionAhead tokens && (structures || !isBreak || !isGroupAhead .brace tokens)
  if hasValue then return head ++ label ++ (← inner.value)
  return head ++ label

def bindingCondition (inner : Phrases) (structures : Bool) : Rule (List Token) := do
  let head := (← word "let") ++ (← alternatives inner).tokens ++ (← operator "=")
  let left ← inner.operand structures
  return head ++ (← inner.tail structures .comparison left).tokens

def closureArgument (inner : Phrases) : Rule (List Token) := do
  let head := (← attributes inner) ++ (← inner.pattern).tokens
  if ← sees ":" then return head ++ (← operator ":") ++ (← inner.type true).tokens
  return head

/-- Takes a function value. If it says what it returns, its body is a block. -/
def closure (inner : Phrases) (structures : Bool) : Rule (List Token) := do
  let head := (← binder? inner) ++ (← word? "const") ++ (← word? "static") ++
    (← word? "async") ++ (← word? "move") ++ (← operator "|")
  let arguments ← separatedUntil (sees "|") "," (closureArgument inner)
  let head := head ++ arguments ++ (← operator "|")
  match ← returned inner true with
  | some result => return head ++ result.tokens ++ (← inner.block false)
  | none => return head ++ (← inner.expression structures).tokens

/-! ## Operands -/

/-- Whether a function value begins with the parameters it is general in. -/
def isBinderAhead (tokens : List Token) : Bool :=
  beginsWith "<" (tokens.drop 1) &&
    (isLifetimeAhead (tokens.drop 2) || beginsWith ">" (tokens.drop 2))

/-- Takes an expression that begins with a word of the language. -/
def wordExpression (inner : Phrases) (structures : Bool) (text : String) :
    Rule ExpressionPhrase := do
  let behind := (← get).drop 1
  let isBlock := isGroupAhead .brace behind
  match text with
  | "_" => return { tokens := ← anyWord }
  | "async" =>
    if isBlock || (isWordAhead "move" behind && isGroupAhead .brace (behind.drop 1)) then
      return { tokens := (← anyWord) ++ (← word? "move") ++ (← inner.block false) }
    require (beginsWith "|" behind || isWordAhead "move" behind)
    return { tokens := ← closure inner structures }
  | "try" =>
    if isBlock then return { tokens := (← anyWord) ++ (← inner.block false), form := .block }
    require (beginsWith "!" behind || beginsWith "::" behind)
    pathExpression inner structures
  | "unsafe" => return { tokens := (← anyWord) ++ (← inner.block true), form := .block }
  | "const" =>
    if isBlock then return { tokens := (← anyWord) ++ (← inner.block true), form := .block }
    return { tokens := ← closure inner structures }
  | "move" | "static" => return { tokens := ← closure inner structures }
  | "for" =>
    if isBinderAhead (← get) then return { tokens := ← closure inner structures }
    return { tokens := ← repetition inner, form := .block }
  | "loop" | "while" => return { tokens := ← repetition inner, form := .block }
  | "if" => return { tokens := ← conditional inner, form := .block }
  | "match" => return { tokens := ← choice inner, form := .block }
  | "let" => return { tokens := ← bindingCondition inner structures }
  | "continue" => return { tokens := (← anyWord) ++ (← lifetime?) }
  | "break" | "return" | "yield" => return { tokens := ← jump inner structures }
  | "become" => return { tokens := (← anyWord) ++ (← inner.value) }
  | "builtin" =>
    if beginsWith "#" behind then
      let head := (← anyWord) ++ (← operator "#") ++ (← identifier)
      require (← ahead (isGroupAhead .parenthesis))
      return { tokens := head ++ (← anyGroup).2 }
    pathExpression inner structures
  | _ => pathExpression inner structures

/-- Takes an expression without anything close around it. -/
def atom (inner : Phrases) (structures : Bool) : Rule ExpressionPhrase := do
  let tokens ← get
  if isLiteralAhead tokens then return { tokens := ← literal }
  match tokens, wordAhead? tokens with
  | _, some text => wordExpression inner structures text
  | .group .parenthesis _ :: _, none =>
    return { tokens := ← grouped .parenthesis (commaSeparated inner.value) }
  | .group .bracket _ :: _, none => return { tokens := ← sequence inner }
  | .group .brace _ :: _, none => return { tokens := ← inner.block true, form := .block }
  | _, none =>
    if isLifetimeAhead tokens then return { tokens := ← labelled inner, form := .block }
    if beginsWith "|" tokens then return { tokens := ← closure inner structures }
    if beginsWith ".." tokens then
      let sign ← rangeOperator false
      return { tokens := sign ++ (← rangeBound inner structures sign), form := .range }
    pathExpression inner structures

/-- The numbers of the fields that a literal behind a dot names. It may name several, with dots
between them and perhaps one at the end. -/
def fieldNumbers? (text : String) : Option (List String × Bool) := do
  let parts := text.splitOn "."
  let endsInDot := parts.getLast? = some "" && parts.length ≠ 1
  let numbers ← (if endsInDot then parts.dropLast else parts).mapM (fieldNumber? ·.toList)
  return (numbers, endsInDot)

/-- Takes a field with a name or a number, or a call of a method, behind the dot. -/
def member (inner : Phrases) : Rule (List Token) := do
  if ← ahead (isWordAhead "await") then return ← anyWord
  if ← ahead isTokenLiteral then return ← fieldNumber
  let name ← identifier
  let general ←
    if ← sees "::" then
      pure ((← operator "::") ++ Argument.angled (← angled (argument inner)))
    else pure []
  if general.isEmpty && !(← ahead (isGroupAhead .parenthesis)) then return name
  return name ++ general ++ (← grouped .parenthesis (commaSeparated inner.value))

/-- Takes fields and calls of methods behind a dot. -/
def members (inner : Phrases) : Rule (List Token) := do
  let dot ← operator "."
  match ← get with
  | .literal text :: rest =>
    let (numbers, endsInDot) ← fieldNumbers? text
    set rest
    let fields := numbers.flatMap fun number => dot ++ [.literal number]
    if endsInDot then return fields ++ dot ++ (← member inner) else return fields
  | _ => return dot ++ (← member inner)

/-- Takes one thing close behind an expression: arguments, a field, an index, or a question mark. -/
def suffixStep (inner : Phrases) (e : ExpressionPhrase) : Rule (Option ExpressionPhrase) := do
  let tokens ← get
  if isGroupAhead .parenthesis tokens then
    let arguments ← grouped .parenthesis (commaSeparated inner.value)
    return some { tokens := e.tokens ++ arguments }
  else if beginsWith "." tokens && !beginsWith ".." tokens && e.form ≠ .range then
    return some { tokens := e.tokens ++ (← members inner) }
  else if isGroupAhead .bracket tokens then
    return some { tokens := e.tokens ++ (← grouped .bracket inner.value) }
  else if beginsWith "?" tokens && e.form ≠ .range then
    return some { tokens := e.tokens ++ (← operator "?") }
  else return none

/-- Takes what is close behind an expression. -/
def suffixes (inner : Phrases) (e : ExpressionPhrase) : Rule ExpressionPhrase :=
  grow (suffixStep inner) e

/-- Takes an operand: signs in front, an expression, and what is close behind it. A range has no
attributes. -/
def operand (inner : Phrases) (structures : Bool) : Rule ExpressionPhrase := do
  let attributes ← attributes inner
  let signed (signs : List Token) : Rule ExpressionPhrase := do
    let e ← inner.operand structures
    return { tokens := attributes ++ signs ++ e.tokens }
  if ← sees "&" then
    let sign ← operator "&"
    let isRaw ← ahead fun tokens => isWordAhead "raw" tokens &&
      (isWordAhead "mut" (tokens.drop 1) || isWordAhead "const" (tokens.drop 1))
    let access ← if isRaw then pure ((← anyWord) ++ (← anyWord)) else word? "mut"
    signed (sign ++ access)
  else if ← sees "*" then signed (← operator "*")
  else if ← sees "!" then signed (← operator "!")
  else if ← sees "-" then signed (← operator "-")
  else
    let e ← suffixes inner (← atom inner structures)
    require (attributes.isEmpty || e.form ≠ .range)
    return { e with tokens := attributes ++ e.tokens }

def isBlockAhead (tokens : List Token) : Bool :=
  let isBlock := isGroupAhead .brace (tokens.drop 1)
  match wordAhead? tokens with
  | some "if" | some "while" | some "loop" | some "match" | some "unsafe" => true
  | some "for" => !isBinderAhead tokens
  | some "try" | some "const" => isBlock
  | some _ => false
  | none => isGroupAhead .brace tokens || isLifetimeAhead tokens

/-- Takes an expression at the beginning of a statement. One that ends at the brace of a block goes
on only with a dot or a question mark. -/
def leading (inner : Phrases) : Rule ExpressionPhrase := do
  let attributes ← attributes inner
  let e ←
    if ← ahead isBlockAhead then
      let e ← atom inner true
      if ((← sees ".") && !(← sees "..")) || (← sees "?") then
        inner.tail true .jump (← suffixes inner e)
      else pure e
    else inner.expression true
  return { e with tokens := attributes ++ e.tokens }

end EntityForge.Grammar
