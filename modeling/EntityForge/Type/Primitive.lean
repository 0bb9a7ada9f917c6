/-!
The nine primitive types, each with a descriptor letter, a keyword and one boxed class.
-/

namespace EntityForge

inductive Primitive where
  | boolean | byte | char | double | float | int | long | short | void
  deriving DecidableEq, Hashable, Inhabited

namespace Primitive

/-- Every primitive, in alphabetical order. -/
def all : List Primitive := [boolean, byte, char, double, float, int, long, short, void]

def letter : Primitive → Char
  | boolean => 'Z'
  | byte => 'B'
  | char => 'C'
  | double => 'D'
  | float => 'F'
  | int => 'I'
  | long => 'J'
  | short => 'S'
  | void => 'V'

def keyword : Primitive → String
  | boolean => "boolean"
  | byte => "byte"
  | char => "char"
  | double => "double"
  | float => "float"
  | int => "int"
  | long => "long"
  | short => "short"
  | void => "void"

def title : Primitive → String
  | boolean => "Boolean"
  | byte => "Byte"
  | char => "Char"
  | double => "Double"
  | float => "Float"
  | int => "Int"
  | long => "Long"
  | short => "Short"
  | void => "Void"

def boxed : Primitive → String
  | boolean => "java.lang.Boolean"
  | byte => "java.lang.Byte"
  | char => "java.lang.Character"
  | double => "java.lang.Double"
  | float => "java.lang.Float"
  | int => "java.lang.Integer"
  | long => "java.lang.Long"
  | short => "java.lang.Short"
  | void => "java.lang.Void"

def ofLetter? : Char → Option Primitive
  | 'Z' => some boolean
  | 'B' => some byte
  | 'C' => some char
  | 'D' => some double
  | 'F' => some float
  | 'I' => some int
  | 'J' => some long
  | 'S' => some short
  | 'V' => some void
  | _ => none

def ofKeyword? (name : String) : Option Primitive := all.find? fun p => p.keyword = name

def ofBoxed? (name : String) : Option Primitive := all.find? fun p => p.boxed = name

def code (p : Primitive) : UInt8 := p.letter.toUInt8

def ofCode? (code : UInt8) : Option Primitive := ofLetter? (Char.ofNat code.toNat)

@[simp] theorem ofLetter?_letter (p : Primitive) : ofLetter? p.letter = some p := by
  cases p <;> rfl

@[simp] theorem ofCode?_code (p : Primitive) : ofCode? p.code = some p := by
  cases p <;> decide

theorem letter_of_ofLetter? {c : Char} {p : Primitive} (h : ofLetter? c = some p) :
    p.letter = c := by
  unfold ofLetter? at h
  split at h <;> cases h <;> rfl

end Primitive

end EntityForge
