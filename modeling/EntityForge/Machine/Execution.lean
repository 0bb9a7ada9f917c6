import EntityForge.Generated.Members
import EntityForge.Machine.Frame
import EntityForge.Machine.State

/-!
Running methods. Code is straight-line, so a method runs for as many steps as it has instructions;
calls nest, and a limit on how deeply they may ends every run.
-/

namespace EntityForge

abbrev Callee := Nat → MethodDef → List Value → Run Value

namespace Run

/-- Calls the method that the class of the receiver declares or inherits. -/
def callWith (callee : Callee) (receiver : Nat) (name descriptor : String) (args : List Value) :
    Run Value := do
  let c ← classOf receiver
  match c.findMethod? name descriptor with
  | some method => callee receiver method args
  | none => throw (.noMethod (name ++ descriptor) c.name)

/-- Makes an object and runs its constructor. A class that declares no constructor without arguments
has one that does nothing. -/
def constructWith (callee : Callee) (className descriptor : String) (args : List Value) :
    Run Nat := do
  let c ← load className
  let id ← allocate c
  match c.declaredMethod? Construction.name descriptor with
  | some constructor =>
    let _ ← callee id constructor args
    return id
  | none =>
    if descriptor = Construction.plain ∧ args.isEmpty then return id
    else throw (.noConstructor className descriptor)

def handleGetWith (callee : Callee) (h : MemberHandle) (id : Nat) : Run Value := do
  checkReceiver h id
  match h.target with
  | .field slot _ => read id slot
  | .method descriptor 0 => callWith callee id h.name descriptor []
  | .method _ _ => throw (.notAGetter h.display)

def handleSetWith (callee : Callee) (h : MemberHandle) (id : Nat) (v : Value) : Run Unit := do
  checkReceiver h id
  match h.target with
  | .field slot _ => store id slot v
  | .method descriptor 1 =>
    let _ ← callWith callee id h.name descriptor [v]
    return ()
  | .method _ _ => throw (.notASetter h.display)

def annotate (id : Nat) (a : Annotation) : Run Unit := do
  let known ← getField id annotationsField
  let items ←
    match known with
    | .list items => pure items
    | .null => pure []
    | other => throw (.annotationsFieldHolds other.kindName)
  setField id annotationsField (.list (items ++ [.annotationUse a]))

/-- Binds a method that generated code names; one that is required must be there. -/
def bindMethod (className name descriptor : String) (required : Bool) : Run Value := do
  let member := name ++ descriptor
  let bound ← (resolveMethod className name descriptor).adapt (.missingLookup className member ·)
  match bound with
  | some h => return .handle h
  | none =>
    if required then throw (.missingLookup className member (.noMethod member className))
    else return .null

/-- Computes an intrinsic on operands from the stack. -/
def intrinsic (f : Frame) : Intrinsic → Except Failure (String × Frame)
  | .collectionName => do
    let (simpleName, f) ← f.popText
    let (config, f) ← f.popConfig
    return (config.collectionName simpleName, f)
  | .discriminator => do
    let (name, f) ← f.popText
    let (config, f) ← f.popConfig
    return (config.discriminator name, f)
  | .discriminatorKey => do
    let (config, f) ← f.popConfig
    return (config.discriminatorKey, f)

/-- What an instruction leaves: a frame that goes on, or the result of the method. -/
inductive Progress where
  | running (frame : Frame)
  | finished (result : Value)

def step (callee : Callee) (type : MethodType) (f : Frame) : Instruction → Run Progress
  | .nop => return .running f
  | .load i => do
    let v ← f.localAt i.toNat
    return .running (f.push v)
  | .dup => do
    let v ← f.peek
    return .running (f.push v)
  | .pop => do
    let (_, f) ← f.pop
    return .running f
  | .pushNull => return .running (f.push .null)
  | .pushBool b => return .running (f.push (.bool b))
  | .loadConstant c => return .running (f.push (.ofLiteral c))
  | .getField className name => do
    let (id, f) ← f.popObject
    checkInstance id className
    let v ← getField id name
    return .running (f.push v)
  | .putField className name => do
    let (v, f) ← f.pop
    let (id, f) ← f.popObject
    checkInstance id className
    setField id name v
    return .running f
  | .invoke className name descriptor => do
    let called ← methodType descriptor
    let (args, f) ← f.popMany called.arity
    let (receiver, f) ← f.popObject
    checkInstance receiver className
    let v ← callWith callee receiver name descriptor args
    return .running (if called.result.isSome then f.push v else f)
  | .new className descriptor => do
    let called ← methodType descriptor
    let (args, f) ← f.popMany called.arity
    let id ← constructWith callee className descriptor args
    return .running (f.push (.object id))
  | .checkCast target => do
    let v ← f.peek
    if (← get).conforms v target then return .running f
    else throw (.cannotCast v.kindName target)
  | .box p => do
    let (v, f) ← f.pop
    let v ← v.boxed p
    return .running (f.push v)
  | .unbox p => do
    let (v, f) ← f.pop
    let v ← v.unboxed p
    return .running (f.push v)
  | .newType kind raw bound dims argc => do
    let (items, f) ← f.popMany argc.toNat
    let args ← (items.mapM Value.toType : Except Failure (List TypeTree))
    return .running (f.push (.type { raw, args, dims, kind, bound }))
  | .newList n => do
    let (items, f) ← f.popMany n.toNat
    return .running (f.push (.list items))
  | .newEnum typeName variant => return .running (f.push (.enumeration typeName variant))
  | .annotationBegin typeName => do
    let draft ← (← get).registry.annotations.draft typeName
    return .running { f with drafts := draft :: f.drafts }
  | .annotationSet element => do
    let (v, f) ← f.pop
    let (draft, f) ← f.popDraft
    let draft ← draft.set element v
    return .running { f with drafts := draft :: f.drafts }
  | .annotationEnd => do
    let (draft, f) ← f.popDraft
    let (id, f) ← f.popObject
    annotate id draft.build
    return .running f
  | .resolveField className name => do
    let h ← (resolveField className name).adapt (.missingLookup className name ·)
    return .running (f.push (.handle h))
  | .resolveMethod className name descriptor required => do
    let v ← bindMethod className name descriptor required
    return .running (f.push v)
  | .handleGet => do
    let (id, f) ← f.popObject
    let (handle, f) ← f.popHandle
    match handle with
    | none => throw (.nullHandle f.method.name)
    | some h =>
      let v ← handleGetWith callee h id
      return .running (f.push v)
  | .handleSet entity property => do
    let (v, f) ← f.pop
    let (id, f) ← f.popObject
    let (handle, f) ← f.popHandle
    match handle with
    | none => throw (.readOnlyProperty entity property)
    | some h =>
      handleSetWith callee h id v
      return .running f
  | .intrinsic which => do
    let (s, f) ← intrinsic f which
    return .running (f.push (.text s))
  | .throw message => failOn f.self (.thrown · f.method.name message)
  | .returnValue => do
    let (v, _) ← f.pop
    let m ← get
    if type.result.all (m.fits v) then return .finished v
    else throw (.cannotReturn f.method.name f.method.descriptor v.kindName)
  | .returnVoid => return .finished .null

def runCode (callee : Callee) (type : MethodType) (f : Frame) : List Instruction → Run Value
  | [] => failOn f.self (.ranPastEnd · f.method.name)
  | instruction :: rest => do
    match ← step callee type f instruction with
    | .running f => runCode callee type f rest
    | .finished v => return v

def checkArguments (method : MethodDef) (type : MethodType) (args : List Value) : Run Unit := do
  let m ← get
  if type.params.length ≠ args.length then
    throw (.argumentCount method.name method.descriptor type.params.length args.length)
  else
    match (type.params.zip args).find? fun (param, arg) => !m.fits arg param with
    | some (param, arg) =>
      throw (.argumentMisfit method.name method.descriptor arg.kindName param)
    | none => return ()

/-- Runs a method where `levels` further calls may nest. -/
def execute : (levels : Nat) → Callee
  | 0, self, method, _ => failOn self (.callDepthExceeded · method.name)
  | levels + 1, self, method, args => do
    let type ← methodType method.descriptor
    checkArguments method type args
    runCode (execute levels) type (.enter method self args) method.code

def instantiate (className descriptor : String) (args : List Value) : Run Nat :=
  constructWith (execute maxCallDepth) className descriptor args

/-- Calls a method; one without result answers null. -/
def invoke (receiver : Nat) (name descriptor : String) (args : List Value) : Run Value :=
  callWith (execute maxCallDepth) receiver name descriptor args

/-- Reads through a handle. A call that this takes is one level deep already. -/
def handleGet (h : MemberHandle) (id : Nat) : Run Value :=
  handleGetWith (execute (maxCallDepth - 1)) h id

/-- Writes through a handle. A call that this takes is one level deep already. -/
def handleSet (h : MemberHandle) (id : Nat) (v : Value) : Run Unit :=
  handleSetWith (execute (maxCallDepth - 1)) h id v

end Run

end EntityForge
