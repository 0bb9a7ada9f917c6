import EntityForge.Toml.Scalar

/-!
The lines of a TOML document. Reading a text gives its statements in order: headers and assignments,
each with a dotted path of keys.
-/

namespace EntityForge

namespace Toml

/-- A value. What a number or a date denotes is never asked, so only their kind is kept. -/
inductive Value where
  | text (value : String)
  | bool (value : Bool)
  | number
  | date
  | array (items : List Value)
  | inlineTable (entries : List (List String × Value))

inductive Statement where
  | table (path : List String)
  | tableEntry (path : List String)
  | assign (path : List String) (value : Value)

/-- The input without leading spaces and tabs. -/
def skipSpaces (cs : List Char) : List Char := cs.dropWhile fun c => c = ' ' || c = '\t'

/-- Whether a character can stand in a comment or a text on one line. -/
def isPlain (c : Char) : Bool := c = '\t' || (0x20 ≤ c.toNat && c.toNat ≠ 0x7F)

/-- Drops a line end. -/
def lineEnd? : List Char → Option (List Char)
  | '\n' :: rest => some rest
  | '\r' :: '\n' :: rest => some rest
  | _ => none

/-- Drops a comment, if one starts here. -/
def skipComment? : List Char → Option (List Char)
  | '#' :: rest =>
    match rest.dropWhile isPlain with
    | [] => some []
    | '\n' :: rest => some ('\n' :: rest)
    | '\r' :: '\n' :: rest => some ('\n' :: rest)
    | _ => none
  | cs => some cs

/-- Drops white space, line ends and comments. -/
def skipTrivia? : Nat → List Char → Option (List Char)
  | 0, _ => none
  | fuel + 1, cs =>
    match skipSpaces cs with
    | '#' :: rest =>
      match skipComment? ('#' :: rest) with
      | some rest => skipTrivia? fuel rest
      | none => none
    | cs =>
      match lineEnd? cs with
      | some rest => skipTrivia? fuel rest
      | none => some cs

/-- Reads the character that `width` hexadecimal digits name. -/
def hexChar? (width : Nat) (cs : List Char) : Option (Char × List Char) := do
  let digits := cs.take width
  if digits.length < width then none
  else
    let code ← digits.foldlM (fun n c => (hexDigit? c).map (16 * n + ·)) 0
    if code.isValidChar then some (Char.ofNat code, cs.drop width) else none

/-- Reads an escape whose backslash has been read. -/
def escape? : List Char → Option (Char × List Char)
  | 'b' :: rest => some ('\x08', rest)
  | 't' :: rest => some ('\t', rest)
  | 'n' :: rest => some ('\n', rest)
  | 'f' :: rest => some ('\x0c', rest)
  | 'r' :: rest => some ('\r', rest)
  | 'e' :: rest => some ('\x1b', rest)
  | '"' :: rest => some ('"', rest)
  | '\\' :: rest => some ('\\', rest)
  | 'x' :: rest => hexChar? 2 rest
  | 'u' :: rest => hexChar? 4 rest
  | 'U' :: rest => hexChar? 8 rest
  | _ => none

/-- Reads the rest of a text on one line between marks `mark`; `done` is reversed. -/
def lineText? (mark : Char) : Nat → List Char → List Char → Option (String × List Char)
  | 0, _, _ => none
  | fuel + 1, done, cs =>
    match cs with
    | [] => none
    | c :: rest =>
      if c = mark then some (String.ofList done.reverse, rest)
      else if c = '\\' ∧ mark = '"' then
        match escape? rest with
        | some (c, rest) => lineText? mark fuel (c :: done) rest
        | none => none
      else if isPlain c then lineText? mark fuel (c :: done) rest
      else none

/-- Drops the white space and line ends after a backslash at the end of a line; there is at least
one line end. -/
def joinLines? (cs : List Char) : Option (List Char) :=
  match lineEnd? (skipSpaces cs) with
  | none => none
  | some rest =>
    some (rest.dropWhile fun c => c = ' ' || c = '\t' || c = '\n' || c = '\r')

/-- Reads the rest of a text over several lines between triple marks. Up to two marks may stand
directly before the closing ones. -/
def blockText? (mark : Char) : Nat → List Char → List Char → Option (String × List Char)
  | 0, _, _ => none
  | fuel + 1, done, cs =>
    match cs with
    | [] => none
    | c :: rest =>
      if c = mark ∧ rest.take 2 = [mark, mark] then
        let extra := ((rest.drop 2).take 2).takeWhile (· = mark)
        some (String.ofList (extra ++ done).reverse, (rest.drop 2).drop extra.length)
      else if c = '\\' ∧ mark = '"' then
        match escape? rest with
        | some (c, rest) => blockText? mark fuel (c :: done) rest
        | none =>
          match joinLines? rest with
          | some rest => blockText? mark fuel done rest
          | none => none
      else if c = '\n' ∨ isPlain c then blockText? mark fuel (c :: done) rest
      else if c = '\r' ∧ rest.head? = some '\n' then blockText? mark fuel (c :: done) rest
      else none

/-- Reads a text whose first mark has been read; `blocks` tells whether it may span lines. -/
def text? (mark : Char) (blocks : Bool) (cs : List Char) : Option (String × List Char) :=
  if blocks ∧ cs.take 2 = [mark, mark] then
    let body := cs.drop 2
    let body := (lineEnd? body).getD body
    blockText? mark (body.length + 1) [] body
  else lineText? mark (cs.length + 1) [] cs

/-- Whether a character can stand in a key without quotation marks. -/
def isBareKeyChar (c : Char) : Bool := c.isAlphanum || c = '_' || c = '-'

def keyPart? : List Char → Option (String × List Char)
  | '"' :: rest => text? '"' false rest
  | '\'' :: rest => text? '\'' false rest
  | cs =>
    match cs.takeWhile isBareKeyChar with
    | [] => none
    | name => some (String.ofList name, cs.dropWhile isBareKeyChar)

/-- The greatest number of parts of a dotted key, and of arrays and tables in braces around a value.
-/
def maxLevels : Nat := 80

/-- Reads a dotted key of up to `levels` parts and the spaces around it; `done` is reversed. -/
def keyFrom? (levels : Nat) (done : List String) (cs : List Char) :
    Option (List String × List Char) :=
  match levels with
  | 0 => none
  | levels + 1 =>
    match keyPart? (skipSpaces cs) with
    | none => none
    | some (part, rest) =>
      match skipSpaces rest with
      | '.' :: rest => keyFrom? levels (part :: done) rest
      | rest => some ((part :: done).reverse, rest)

def key? (cs : List Char) : Option (List String × List Char) := keyFrom? maxLevels [] cs

/-- Reads a value that is neither text nor array nor table. -/
def token? (cs : List Char) : Option (Value × List Char) :=
  let isTokenChar (c : Char) : Bool := c.isAlphanum || c = '_' || c = '+' || c = '-' || c = '.' ||
    c = ':'
  let token := cs.takeWhile isTokenChar
  let rest := cs.dropWhile isTokenChar
  let (token, rest) :=
    match rest with
    | ' ' :: after =>
      if isDate token ∧ (time? (after.takeWhile isTokenChar)).isSome then
        (token ++ ' ' :: after.takeWhile isTokenChar, after.dropWhile isTokenChar)
      else (token, rest)
    | _ => (token, rest)
  if token = ['t', 'r', 'u', 'e'] then some (.bool true, rest)
  else if token = ['f', 'a', 'l', 's', 'e'] then some (.bool false, rest)
  else if isNumber token then some (.number, rest)
  else if isDate token then some (.date, rest)
  else none

mutual

/-- Reads a value with up to `levels` arrays and tables inside each other. -/
def value? (levels : Nat) : Nat → List Char → Option (Value × List Char)
  | 0, _ => none
  | fuel + 1, cs =>
    match cs, levels with
    | '"' :: rest, _ => (text? '"' true rest).map fun (s, rest) => (.text s, rest)
    | '\'' :: rest, _ => (text? '\'' true rest).map fun (s, rest) => (.text s, rest)
    | '[' :: rest, levels + 1 => items? levels fuel [] rest
    | '\x7b' :: rest, levels + 1 => entries? levels fuel [] rest
    | cs, _ => token? cs

/-- Reads the rest of an array; a comma may follow the last item. -/
def items? (levels : Nat) : Nat → List Value → List Char → Option (Value × List Char)
  | 0, _, _ => none
  | fuel + 1, done, cs =>
    match skipTrivia? (cs.length + 1) cs with
    | none => none
    | some (']' :: rest) => some (.array done.reverse, rest)
    | some cs =>
      match value? levels fuel cs with
      | none => none
      | some (item, rest) =>
        match skipTrivia? (rest.length + 1) rest with
        | some (',' :: rest) => items? levels fuel (item :: done) rest
        | some (']' :: rest) => some (.array (item :: done).reverse, rest)
        | _ => none

/-- Reads the rest of a table in braces; a comma may follow the last entry. -/
def entries? (levels : Nat) :
    Nat → List (List String × Value) → List Char → Option (Value × List Char)
  | 0, _, _ => none
  | fuel + 1, done, cs =>
    match skipTrivia? (cs.length + 1) cs with
    | none => none
    | some ('\x7d' :: rest) => some (.inlineTable done.reverse, rest)
    | some cs =>
      match key? cs with
      | some (path, '=' :: rest) =>
        match value? levels fuel (skipSpaces rest) with
        | none => none
        | some (item, rest) =>
          match skipTrivia? (rest.length + 1) rest with
          | some (',' :: rest) => entries? levels fuel ((path, item) :: done) rest
          | some ('\x7d' :: rest) => some (.inlineTable ((path, item) :: done).reverse, rest)
          | _ => none
      | _ => none

end

def statement? (cs : List Char) : Option (Statement × List Char) :=
  match cs with
  | '[' :: '[' :: rest =>
    match key? rest with
    | some (path, ']' :: ']' :: rest) => some (.tableEntry path, rest)
    | _ => none
  | '[' :: rest =>
    match key? rest with
    | some (path, ']' :: rest) => some (.table path, rest)
    | _ => none
  | cs =>
    match key? cs with
    | some (path, '=' :: rest) =>
      (value? maxLevels (rest.length + 1) (skipSpaces rest)).map fun (value, rest) =>
        (.assign path value, rest)
    | _ => none

/-- Reads all statements; each ends with its line. -/
def statementsFrom? : Nat → List Statement → List Char → Option (List Statement)
  | 0, _, _ => none
  | fuel + 1, done, cs =>
    match skipTrivia? (cs.length + 1) cs with
    | none => none
    | some [] => some done.reverse
    | some cs =>
      match statement? cs with
      | none => none
      | some (statement, rest) =>
        match skipComment? (skipSpaces rest) with
        | none => none
        | some [] => some (statement :: done).reverse
        | some rest =>
          match lineEnd? rest with
          | none => none
          | some rest => statementsFrom? fuel (statement :: done) rest

/-- The statements of a text, which may begin with a byte order mark. -/
def statements? (s : String) : Option (List Statement) :=
  let cs :=
    match s.toList with
    | '\uFEFF' :: rest => rest
    | cs => cs
  statementsFrom? (cs.length + 1) [] cs

end Toml

end EntityForge
