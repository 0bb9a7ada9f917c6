import EntityForge.Text.Quoted

/-!
Source text as tokens: words, marks, literals and groups in brackets. On a line they are one space
apart, except behind a mark that joins the next one; a brace has spaces on its inner sides.
-/

namespace EntityForge

inductive Delimiter where
  | parenthesis
  | bracket
  | brace
deriving DecidableEq

namespace Delimiter

def opening : Delimiter → String
  | parenthesis => "("
  | bracket => "["
  | brace => "\x7b "

def closing (isEmpty : Bool) : Delimiter → String
  | parenthesis => ")"
  | bracket => "]"
  | brace => if isEmpty then "\x7d" else " \x7d"

end Delimiter

/-- A token or a group of tokens. A joint mark is one operator with the mark behind it. -/
inductive Token where
  | word (text : String)
  | mark (char : Char) (joint : Bool)
  | literal (text : String)
  | group (delimiter : Delimiter) (inside : List Token)

namespace Token

def gap : Token → List String
  | mark _ true => []
  | _ => [" "]

mutual

/-- The pieces of text of a token, in front of the pieces behind it. -/
def pieces (behind : List String) : Token → List String
  | word text => text :: behind
  | mark char _ => String.singleton char :: behind
  | literal text => text :: behind
  | group delimiter inside =>
    delimiter.opening :: piecesAll (delimiter.closing inside.isEmpty :: behind) inside

/-- The pieces of text of tokens, in front of the pieces behind them. -/
def piecesAll (behind : List String) : List Token → List String
  | [] => behind
  | [t] => pieces behind t
  | t :: ts => pieces (t.gap ++ piecesAll behind ts) t

end

def render (tokens : List Token) : String := String.join (piecesAll [] tokens)

mutual

def size : Token → Nat
  | group _ inside => sizeAll inside + 1
  | _ => 1

def sizeAll : List Token → Nat
  | [] => 0
  | t :: ts => size t + sizeAll ts

end

def sign (char : Char) : Token := mark char false

/-- The marks of an operator, all of them joint but the last. -/
def marks : List Char → List Token
  | [] => []
  | [c] => [sign c]
  | c :: cs => mark c true :: marks cs

def operator (text : String) : List Token := marks text.toList

def words (texts : List String) : List Token := texts.map word

/-- The characters of a text literal. The zero character is spelled out in front of an octal digit,
with which it would read as another number. -/
def literalChars : List Char → List Char
  | [] => []
  | c :: rest =>
    let written :=
      if c = '\x00' ∧ (rest.head?.any fun next => '0' ≤ next && next ≤ '7') then
        ['\\', 'x', '0', '0']
      else Text.escapeChar '"' c
    written ++ literalChars rest

def quoted (s : String) : Token :=
  literal (String.ofList ('"' :: literalChars s.toList ++ ['"']))

def bool (b : Bool) : Token := word (if b then "true" else "false")

def separated : List Token → List Token
  | [] => []
  | [t] => [t]
  | t :: ts => t :: sign ',' :: separated ts

end Token

end EntityForge
