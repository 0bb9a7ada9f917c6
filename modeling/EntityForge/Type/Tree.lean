import EntityForge.Type.Primitive

/-!
Resolved types. A type tree is a named type with its arguments, array dimensions and, inside an
argument list, a bound. It is printed in three ways: as a signature, as an erased descriptor without
arguments, and as source text.
-/

namespace EntityForge

inductive TypeKind where
  | primitive (p : Primitive)
  | classType
  | variable
  | wildcard
  deriving DecidableEq, Hashable, Inhabited

/-- The variance marker of a type argument: the type itself, any subtype of it, or any supertype. -/
inductive Bound where
  | exact | upper | lower
  deriving DecidableEq, Hashable, Inhabited

def Bound.label : Bound → String
  | exact => "Exact"
  | upper => "Extends"
  | lower => "Super"

structure TypeTree where
  raw : String
  args : List TypeTree
  dims : UInt8
  kind : TypeKind
  bound : Bound
  deriving Inhabited

namespace TypeTree

mutual

def decEq : (s t : TypeTree) → Decidable (s = t)
  | ⟨raw, args, dims, kind, bound⟩, ⟨raw', args', dims', kind', bound'⟩ =>
    match decEqList args args' with
    | .isFalse h => .isFalse fun heq => h (by cases heq; rfl)
    | .isTrue h =>
      if hrest : raw = raw' ∧ dims = dims' ∧ kind = kind' ∧ bound = bound' then
        .isTrue (by simp [h, hrest])
      else .isFalse fun heq => hrest (by cases heq; simp)

def decEqList : (ss ts : List TypeTree) → Decidable (ss = ts)
  | [], [] => .isTrue rfl
  | [], _ :: _ => .isFalse nofun
  | _ :: _, [] => .isFalse nofun
  | s :: ss, t :: ts =>
    match decEq s t with
    | .isFalse h => .isFalse fun heq => h (by cases heq; rfl)
    | .isTrue h =>
      match decEqList ss ts with
      | .isFalse hs => .isFalse fun heq => hs (by cases heq; rfl)
      | .isTrue hs => .isTrue (by rw [h, hs])

end

instance : DecidableEq TypeTree := decEq

def ofPrimitive (p : Primitive) : TypeTree := ⟨p.keyword, [], 0, .primitive p, .exact⟩

def ofClass (name : String) : TypeTree := ⟨name, [], 0, .classType, .exact⟩

def ofVariable (name : String) : TypeTree := ⟨name, [], 0, .variable, .exact⟩

/-- The argument that allows any type. -/
def anyType : TypeTree := ⟨"?", [], 0, .wildcard, .exact⟩

def isArray (t : TypeTree) : Bool := t.dims ≠ 0

def primitive? (t : TypeTree) : Option Primitive :=
  match t.kind with
  | .primitive p => if t.dims = 0 then some p else none
  | _ => none

def element (t : TypeTree) : TypeTree := { t with dims := 0 }

def objectClass : String := "java.lang.Object"

/-- The class on the far side of a boundary that knows neither primitives nor variables. -/
def boxedName (t : TypeTree) : String :=
  match t.primitive? with
  | some p => p.boxed
  | none =>
    match t.kind with
    | .variable | .wildcard => objectClass
    | _ => t.raw

/-- A class name with slashes between its parts. -/
def slashed (name : String) : List Char := name.toList.map fun c => if c = '.' then '/' else c

/-- A class name with dots between its parts. -/
def dotted (cs : List Char) : String := String.ofList (cs.map fun c => if c = '/' then '.' else c)

/-- The opening brackets of an array type. -/
def brackets (dims : UInt8) : List Char := List.replicate dims.toNat '['

def erasedChars (t : TypeTree) : List Char :=
  brackets t.dims ++
    match t.kind with
    | .primitive p => [p.letter]
    | .classType => 'L' :: slashed t.raw ++ [';']
    | .variable | .wildcard => 'L' :: slashed objectClass ++ [';']

/-- The erased descriptor: arguments dropped, variables replaced by the class of all objects. -/
def erasedDescriptor (t : TypeTree) : String := String.ofList t.erasedChars

/-- The name that a runtime cast checks: the boxed class, or the erased descriptor of an array. -/
def castName (t : TypeTree) : String := if t.isArray then t.erasedDescriptor else t.boxedName

def boundMark : Bound → List Char
  | .exact => []
  | .upper => ['+']
  | .lower => ['-']

mutual

def signatureChars : TypeTree → List Char
  | ⟨raw, args, dims, kind, bound⟩ =>
    boundMark bound ++ brackets dims ++
      match kind with
      | .primitive p => [p.letter]
      | .wildcard => ['*']
      | .variable => 'T' :: raw.toList ++ [';']
      | .classType =>
        'L' :: slashed raw ++ (if args.isEmpty then [] else '<' :: signatureListChars args ++ ['>'])
          ++ [';']

/-- The signatures of a list of types, one after the other. -/
def signatureListChars : List TypeTree → List Char
  | [] => []
  | t :: ts => signatureChars t ++ signatureListChars ts

end

/-- The signature: the text that the type is resolved from. -/
def signature (t : TypeTree) : String := String.ofList t.signatureChars

mutual

def display : TypeTree → String
  | ⟨raw, args, dims, _, bound⟩ =>
    let mark :=
      match bound with
      | .exact => ""
      | .upper => "? extends "
      | .lower => "? super "
    let arguments := if args.isEmpty then "" else "<" ++ ", ".intercalate (displayAll args) ++ ">"
    mark ++ raw ++ arguments ++ String.join (List.replicate dims.toNat "[]")

def displayAll : List TypeTree → List String
  | [] => []
  | t :: ts => display t :: displayAll ts

end

mutual

def nodeCount : TypeTree → Nat
  | ⟨_, args, _, _, _⟩ => 1 + nodeCountAll args

def nodeCountAll : List TypeTree → Nat
  | [] => 0
  | t :: ts => nodeCount t + nodeCountAll ts

end

end TypeTree

end EntityForge
