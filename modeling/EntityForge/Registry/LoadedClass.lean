import EntityForge.Class.Body
import EntityForge.Type.Signature
import EntityForge.Value.Basic

/-!
Linked classes. A loaded class knows its superclass, if that is a generated class too, and lays out
the fields of its instances: inherited slots come first, so that a slot has one place in a class and
in all that extend it.
-/

namespace EntityForge

structure FieldSlot where
  owner : String
  name : String
  type : TypeTree
  flags : UInt16
  initial : Value

structure LoadedClass where
  body : ClassBody
  superclass : Option LoadedClass
  slots : List FieldSlot

instance : Inhabited LoadedClass :=
  ⟨{ body := { name := "", kind := .entity }, superclass := none, slots := [] }⟩

namespace LoadedClass

def name (c : LoadedClass) : String := c.body.name

/-- The last slot of a name: a declared field hides an inherited one. -/
def slot? (c : LoadedClass) (name : String) : Option Nat :=
  c.slots.zipIdx.foldl (fun found (slot, i) => if slot.name = name then some i else found) none

/-- The method of a name and descriptor that the class declares or inherits. -/
def findMethod? (name descriptor : String) : LoadedClass → Option MethodDef
  | ⟨body, none, _⟩ => body.method? name descriptor
  | ⟨body, some parent, _⟩ =>
    (body.method? name descriptor).or (findMethod? name descriptor parent)

/-- The method of a name and descriptor that the class itself declares. -/
def declaredMethod? (c : LoadedClass) (name descriptor : String) : Option MethodDef :=
  c.body.method? name descriptor

/-- Whether an instance may be used where the target is expected: the class itself, one that it
extends, or an interface of any of them. -/
def isSubclassOf (target : String) : LoadedClass → Bool
  | ⟨body, none, _⟩ =>
    body.name = target || body.interfaces.contains target || body.superName = some target
  | ⟨body, some parent, _⟩ =>
    body.name = target || body.interfaces.contains target || isSubclassOf target parent

/-- The values of the fields of a new instance. -/
def initialFields (c : LoadedClass) : List Value := c.slots.map (·.initial)

def slotOf (className : String) (f : FieldDef) : Except Failure FieldSlot := do
  let type ← (Signature.parseType f.descriptor).mapError (.badFieldDescriptor className f.name)
  let initial ←
    match f.initial with
    | some c => Value.ofInitializer c type
    | none => .ok (Value.zero type)
  return { owner := className, name := f.name, type, flags := f.flags, initial }

/-- The declared fields that every instance has. -/
def instanceFields (b : ClassBody) : List FieldDef :=
  b.fields.filter fun f => !AccessFlag.within AccessFlag.isStatic f.flags

/-- Links a class behind its loaded superclass. -/
def link (body : ClassBody) (superclass : Option LoadedClass) : Except Failure LoadedClass := do
  let own ← (instanceFields body).mapM (slotOf body.name)
  return { body, superclass, slots := superclass.elim [] (·.slots) ++ own }

end LoadedClass

end EntityForge
