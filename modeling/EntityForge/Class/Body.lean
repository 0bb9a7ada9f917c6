import EntityForge.Class.Instruction
import EntityForge.Metadata.Class

/-!
Class bodies: the fields and methods of one generated class.
-/

namespace EntityForge

inductive ClassKind where
  | entity | accessor | propertyModel | entityModel
  deriving DecidableEq

namespace ClassKind

def tag : ClassKind → UInt8
  | entity => 0
  | accessor => 1
  | propertyModel => 2
  | entityModel => 3

def ofTag? (tag : UInt8) : Option ClassKind :=
  match tag.toNat with
  | 0 => some entity
  | 1 => some accessor
  | 2 => some propertyModel
  | 3 => some entityModel
  | _ => none

def label : ClassKind → String
  | entity => "entity"
  | accessor => "accessor"
  | propertyModel => "property-model"
  | entityModel => "entity-model"

end ClassKind

structure FieldDef where
  name : String
  descriptor : String
  flags : UInt16
  initial : Option Constant
  deriving DecidableEq

structure MethodDef where
  name : String
  descriptor : String
  flags : UInt16
  maxLocals : UInt16
  code : List Instruction
  deriving DecidableEq

structure ClassBody where
  name : String
  kind : ClassKind
  flags : UInt16 := AccessFlag.isPublic
  superName : Option String := none
  signature : Option String := none
  interfaces : List String := []
  fields : List FieldDef := []
  methods : List MethodDef := []
  deriving DecidableEq

namespace ClassBody

def field? (b : ClassBody) (name : String) : Option FieldDef :=
  b.fields.find? fun f => f.name = name

def method? (b : ClassBody) (name descriptor : String) : Option MethodDef :=
  b.methods.find? fun m => m.name = name && m.descriptor = descriptor

end ClassBody

end EntityForge
