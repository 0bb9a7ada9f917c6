import EntityForge.Source.Grammar.Reading
import EntityForge.Source.TokenReader

/-!
Paths to modules in source text. A path is read from text; it can be used if the names of the module
can be reached behind it, both as types and in expressions.
-/

namespace EntityForge

structure ModulePath where
  tokens : List Token

namespace ModulePath

def read? (s : String) : Option ModulePath := do
  let tokens ← Token.read? s
  let path ← Grammar.readAll? (Grammar.path · false) tokens
  return ⟨path.tokens⟩

/-- What is called `name` in the module. -/
def member (p : ModulePath) (name : String) : List Token :=
  p.tokens ++ Token.operator "::" ++ [.word name]

/-- Whether a name in the module can stand for a type, and for the value of a structure. In an
expression an angle bracket is an operator, unless double colons come first. -/
def reaches (p : ModulePath) (name : String) : Bool :=
  (Grammar.readAll? (·.type true) (p.member name)).isSome &&
    (Grammar.readAll? (·.expression true) (p.member name ++ [.group .brace []])).isSome

end ModulePath

end EntityForge
