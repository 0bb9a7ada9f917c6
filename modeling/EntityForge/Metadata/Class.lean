import EntityForge.Annotation.Basic
import EntityForge.Metadata.Constant
import EntityForge.Text.Qualified

/-!
Metadata of compiled classes: members with descriptors, optional generic signatures, access flags
and annotations. Class names are dotted.
-/

namespace EntityForge

/-! The access flags of classes, fields and methods. -/

namespace AccessFlag

def isPublic : UInt16 := 0x0001
def isPrivate : UInt16 := 0x0002
def isStatic : UInt16 := 0x0008
def isFinal : UInt16 := 0x0010
def isTransient : UInt16 := 0x0020
def isSynthetic : UInt16 := 0x0040
def isBridge : UInt16 := 0x0080
def isAbstract : UInt16 := 0x0100
def isInterface : UInt16 := 0x0200

/-- Whether a set of flags holds one of them. -/
def within (flag flags : UInt16) : Bool := flags &&& flag ≠ 0

end AccessFlag

structure FieldMeta where
  name : String
  descriptor : String
  signature : Option String := none
  flags : UInt16 := AccessFlag.isPrivate
  annotations : List Annotation := []
  constant : Option Constant := none

structure MethodMeta where
  name : String
  descriptor : String
  signature : Option String := none
  flags : UInt16 := AccessFlag.isPublic
  annotations : List Annotation := []

structure ClassMeta where
  name : String
  flags : UInt16 := AccessFlag.isPublic
  superName : Option String := none
  signature : Option String := none
  fields : List FieldMeta := []
  methods : List MethodMeta := []
  annotations : List Annotation := []

namespace FieldMeta

/-- The generic signature when there is one, the descriptor otherwise. -/
def typeSignature (f : FieldMeta) : String := f.signature.getD f.descriptor

def has (f : FieldMeta) (flag : UInt16) : Bool := AccessFlag.within flag f.flags

def annotation? (f : FieldMeta) (typeName : String) : Option Annotation :=
  Annotations.find? f.annotations typeName

end FieldMeta

namespace MethodMeta

/-- The generic signature when there is one, the descriptor otherwise. -/
def typeSignature (m : MethodMeta) : String := m.signature.getD m.descriptor

def has (m : MethodMeta) (flag : UInt16) : Bool := AccessFlag.within flag m.flags

def annotation? (m : MethodMeta) (typeName : String) : Option Annotation :=
  Annotations.find? m.annotations typeName

end MethodMeta

namespace ClassMeta

def simpleName (c : ClassMeta) : String := Qualified.simpleName c.name

def package (c : ClassMeta) : String := Qualified.packageName c.name

def isAbstract (c : ClassMeta) : Bool := AccessFlag.within AccessFlag.isAbstract c.flags

def isInterface (c : ClassMeta) : Bool := AccessFlag.within AccessFlag.isInterface c.flags

def annotation? (c : ClassMeta) (typeName : String) : Option Annotation :=
  Annotations.find? c.annotations typeName

def field? (c : ClassMeta) (name : String) : Option FieldMeta :=
  c.fields.find? fun f => f.name = name

/-- Whether the members and annotations are the whole of the class: it names neither a superclass
nor a signature. -/
def isSelfDescribed (c : ClassMeta) : Bool := c.superName.isNone && c.signature.isNone

end ClassMeta

end EntityForge
