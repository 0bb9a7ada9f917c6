import EntityForge.Machine.Execution

/-!
Accessors: reading and writing one property of any object of an entity. A generated accessor is an
object of a generated class; a bound accessor goes through handles that were bound once.
-/

namespace EntityForge

inductive Accessor where
  | generated (object : Nat)
  | bound (entity property : String) (getter : MemberHandle) (setter : Option MemberHandle)

namespace Accessor

/-- An object as an accessor; its class must implement the interface of accessors. -/
def ofObject (object : Nat) : Run Accessor := do
  let c ← Run.classOf object
  if c.isSubclassOf ClassName.accessor then return .generated object
  else throw (.notAnAccessor c.name)

def ofClass (className : String) : Run Accessor := do
  ofObject (← Run.instantiate className Construction.plain [])

/-- Binds a method that a property is read or written through, if the class has it. -/
def bindMethod (entity : String) (method : MethodRef) : Run (Option MemberHandle) :=
  (Run.resolveMethod entity method.name method.descriptor).adapt
    (.missingLookup entity method.name ·)

/-- Binds the members of a property. A setter that the class lacks leaves the property read-only. -/
def ofProperty (entity : String) (p : Property) : Run Accessor :=
  match p.access with
  | .field => do
    let h ← (Run.resolveField entity p.name).adapt (.missingLookup entity p.name ·)
    return .bound entity p.name h (some h)
  | .method getter setter => do
    match ← bindMethod entity getter with
    | none =>
      throw (.missingLookup entity getter.name (.noAccessorMethod getter.display entity))
    | some get =>
      let set ←
        match setter with
        | some setter => bindMethod entity setter
        | none => pure none
      return .bound entity p.name get set

def isReadOnly : Accessor → Bool
  | bound _ _ _ none => true
  | _ => false

def get (a : Accessor) (object : Nat) : Run Value :=
  match a with
  | .generated self =>
    Run.invoke self AccessorMember.get.name AccessorMember.get.descriptor [.object object]
  | .bound _ _ getter _ => Run.handleGet getter object

def set (a : Accessor) (object : Nat) (v : Value) : Run Unit :=
  match a with
  | .generated self => do
    let _ ←
      Run.invoke self AccessorMember.set.name AccessorMember.set.descriptor [.object object, v]
    return ()
  | .bound _ _ _ (some setter) => Run.handleSet setter object v
  | .bound entity property _ none => throw (.readOnlyProperty entity property)

end Accessor

end EntityForge
