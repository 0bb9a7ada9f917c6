import EntityForge.Class.Decode
import EntityForge.Failure

/-!
Writing code. Code is a list of instructions; the pieces that need more than one are built here, and
a method made from code gets exactly the locals that it needs.
-/

namespace EntityForge

abbrev Code := List Instruction

namespace Code

def loadThis : Instruction := .load 0

def loadText (s : String) : Instruction := .loadConstant (.text s)

mutual

/-- Builds a type: its arguments first, then the type itself. -/
def typeData : TypeTree → Except Failure Code
  | ⟨raw, args, dims, kind, bound⟩ =>
    match typeDataAll args with
    | .error e => .error e
    | .ok code =>
      if args.length ≤ 255 then
        .ok (code ++ [.newType kind raw bound dims (UInt8.ofNat args.length)])
      else .error (.tooManyTypeArguments raw args.length)

def typeDataAll : List TypeTree → Except Failure Code
  | [] => .ok []
  | t :: ts =>
    match typeData t with
    | .error e => .error e
    | .ok code =>
      match typeDataAll ts with
      | .error e => .error e
      | .ok rest => .ok (code ++ rest)

end

/-- Builds a list of texts. -/
def textList (items : List String) : Except Failure Code :=
  if items.length ≤ 65535 then
    .ok (items.map loadText ++ [.newList (UInt16.ofNat items.length)])
  else .error .textListTooLong

def maxLoad? (code : Code) : Option UInt8 :=
  code.foldl (fun highest instruction =>
    match instruction with
    | .load i => some (highest.elim i (max i))
    | _ => highest) none

/-- The number of locals that a method of `arity` arguments needs for its code. -/
def neededLocals (arity : Nat) (code : Code) : UInt16 :=
  let fromArguments := MethodDef.argumentLocals arity
  let fromLoads : UInt16 := (maxLoad? code).elim 0 fun i => i.toUInt16 + 1
  max fromArguments fromLoads

end Code

/-- A method made from code. A descriptor that does not resolve counts as one without parameters. -/
def MethodDef.ofCode (name descriptor : String) (flags : UInt16) (code : Code) : MethodDef :=
  let arity :=
    match MethodType.parse descriptor with
    | .ok type => type.arity
    | .error _ => 0
  { name, descriptor, flags, maxLocals := Code.neededLocals arity code, code }

end EntityForge
