import EntityForge.Annotation.Registry
import EntityForge.Class.Body
import EntityForge.Value.Basic

/-!
Frames: the locals, the operand stack and the open annotations of one running method.
-/

namespace EntityForge

/-- A running method. The top of the stack and the innermost annotation come first. -/
structure Frame where
  method : MethodDef
  self : Nat
  locals : List Value
  stack : List Value := []
  drafts : List AnnotationDraft := []

namespace Frame

/-- The frame of a call: the receiver, the arguments, and null in all further locals. -/
def enter (method : MethodDef) (self : Nat) (args : List Value) : Frame :=
  let given := .object self :: args
  { method, self
    locals := given ++ List.replicate (method.maxLocals.toNat - given.length) .null }

def push (f : Frame) (v : Value) : Frame := { f with stack := v :: f.stack }

def underflow (f : Frame) : Failure := .stackUnderflow f.method.name

/-- The top of the stack. -/
def peek (f : Frame) : Except Failure Value :=
  match f.stack with
  | v :: _ => .ok v
  | [] => .error f.underflow

/-- Takes the top off the stack. -/
def pop (f : Frame) : Except Failure (Value × Frame) :=
  match f.stack with
  | v :: stack => .ok (v, { f with stack })
  | [] => .error f.underflow

/-- Takes the top `n` values off the stack, in the order in which they were put there. -/
def popMany (f : Frame) (n : Nat) : Except Failure (List Value × Frame) :=
  if n ≤ f.stack.length then
    .ok ((f.stack.take n).reverse, { f with stack := f.stack.drop n })
  else .error f.underflow

/-- Takes a value of a certain form off the stack. -/
def popAs {α : Type} (f : Frame) (expected : String) (as? : Value → Option α) :
    Except Failure (α × Frame) := do
  let (v, f) ← f.pop
  match as? v with
  | some a => return (a, f)
  | none => throw (.operandMismatch f.method.name expected v.kindName)

def popObject (f : Frame) : Except Failure (Nat × Frame) :=
  f.popAs "an object" fun
    | .object id => some id
    | _ => none

def popText (f : Frame) : Except Failure (String × Frame) :=
  f.popAs "a string" fun
    | .text s => some s
    | _ => none

/-- Takes a configuration off the stack. -/
def popConfig (f : Frame) : Except Failure (MappingConfig × Frame) :=
  f.popAs "the mapping config" fun
    | .config c => some c
    | _ => none

/-- Takes a handle or null off the stack. -/
def popHandle (f : Frame) : Except Failure (Option MemberHandle × Frame) := do
  let (v, f) ← f.pop
  match v with
  | .handle h => return (some h, f)
  | .null => return (none, f)
  | v => throw (.notAHandle v.kindName)

def popDraft (f : Frame) : Except Failure (AnnotationDraft × Frame) :=
  match f.drafts with
  | draft :: drafts => .ok (draft, { f with drafts })
  | [] => .error (.annotationNotOpen f.method.name)

def localAt (f : Frame) (i : Nat) : Except Failure Value :=
  match f.locals[i]? with
  | some v => .ok v
  | none => .error (.localOutOfRange i f.method.name)

end Frame

end EntityForge
