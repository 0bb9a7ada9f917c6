import EntityForge.Registry.Store
import EntityForge.Value.Conformance

/-!
The state of the machine: the registry, the objects made so far, and the number of handles bound. A
run may fail; what it did before it failed stays done. Every field is written through a check of its
type.
-/

namespace EntityForge

/-- An object: its class and the values of its fields in slot order. -/
structure Instance where
  type : LoadedClass
  fields : List Value

instance : Inhabited Instance := ⟨⟨default, []⟩⟩

/-- The state of the machine. An object is named by its place on the heap. -/
structure Machine where
  registry : ClassRegistry
  heap : Array Instance := #[]
  handleCount : Nat := 0

abbrev Run := ExceptT Failure (StateM Machine)

namespace Machine

def classOf (m : Machine) (id : Nat) : LoadedClass := (m.heap[id]?.getD default).type

/-- Whether an object may be used where a class is expected. -/
def isInstance (m : Machine) (id : Nat) (target : String) : Bool :=
  (m.classOf id).isSubclassOf target

/-- Whether a value may be used where a class or an array of them is expected. -/
def conforms (m : Machine) (v : Value) (target : String) : Bool :=
  Value.conformsTo m.isInstance target.toList v

def fits (m : Machine) (v : Value) (t : TypeTree) : Bool := Value.fits m.isInstance v t

end Machine

namespace Run

variable {α : Type}

def classOf (id : Nat) : Run LoadedClass := return (← get).classOf id

def failOn (id : Nat) (failure : String → Failure) : Run α := do
  throw (failure (← classOf id).name)

def load (name : String) : Run LoadedClass := do
  let m ← get
  let (result, registry) := m.registry.load name
  set { m with registry }
  result

/-- Makes an object with every field at its initial value. -/
def allocate (c : LoadedClass) : Run Nat := do
  let m ← get
  set { m with heap := m.heap.push ⟨c, c.initialFields⟩ }
  return m.heap.size

def read (id slot : Nat) : Run Value := do
  match ((← get).heap[id]?.getD default).fields[slot]? with
  | some v => return v
  | none => failOn id (.slotOutOfRange slot)

/-- Writes a slot without a check of its type. -/
def write (id slot : Nat) (v : Value) : Run Unit := do
  let m ← get
  let object := m.heap[id]?.getD default
  if slot < object.fields.length then
    set { m with
      heap := m.heap.setIfInBounds id { object with fields := object.fields.set slot v } }
  else failOn id (.slotOutOfRange slot)

/-- Writes a slot if the value fits its type. -/
def store (id slot : Nat) (v : Value) : Run Unit := do
  let m ← get
  let c := m.classOf id
  match c.slots[slot]? with
  | none => throw (.slotOutOfRange slot c.name)
  | some field =>
    if m.fits v field.type then write id slot v
    else throw (.cannotStore v.kindName c.name field.name field.type)

def fieldSlot (id : Nat) (name : String) : Run Nat := do
  let c ← classOf id
  match c.slot? name with
  | some slot => return slot
  | none => throw (.noField name c.name)

def getField (id : Nat) (name : String) : Run Value := do
  read id (← fieldSlot id name)

def setField (id : Nat) (name : String) (v : Value) : Run Unit := do
  store id (← fieldSlot id name) v

def newHandle (className name : String) (target : HandleTarget) : Run MemberHandle := do
  let m ← get
  set { m with handleCount := m.handleCount + 1 }
  return { id := m.handleCount, className, name, target }

def resolveField (className name : String) : Run MemberHandle := do
  let c ← load className
  match c.slot? name with
  | none => throw (.noField name className)
  | some slot =>
    match c.slots[slot]? with
    | none => throw (.danglingSlot slot className)
    | some field => newHandle c.name name (.field slot field.type)

def methodType (descriptor : String) : Except Failure MethodType :=
  (MethodType.parse descriptor).mapError (.badMethodDescriptor descriptor)

/-- Binds a method of a class; none if the class has no such method. -/
def resolveMethod (className name descriptor : String) : Run (Option MemberHandle) := do
  let c ← load className
  match c.findMethod? name descriptor with
  | none => return none
  | some _ =>
    let type ← methodType descriptor
    let handle ← newHandle c.name name (.method descriptor type.arity)
    return some handle

/-- Checks that an object may be used with a handle. -/
def checkReceiver (h : MemberHandle) (id : Nat) : Run Unit := do
  let c ← classOf id
  if c.isSubclassOf h.className then return () else throw (.wrongReceiver h.display c.name)

def checkInstance (id : Nat) (className : String) : Run Unit := do
  let c ← classOf id
  if c.isSubclassOf className then return () else throw (.notAnInstance className c.name)

end Run

end EntityForge
