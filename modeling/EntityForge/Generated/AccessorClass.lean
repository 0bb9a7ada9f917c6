import EntityForge.Generated.EntityClass
import EntityForge.Registry.Record

/-!
Accessor classes. Each has a constructor without arguments, a getter that answers any object and a
setter that takes any; values cross this border boxed.
-/

namespace EntityForge

structure AccessorShape where
  entity : String
  property : Property

namespace AccessorShape

def className (s : AccessorShape) : String := GeneratedName.accessor s.entity s.property.name

/-- The generic signature: an accessor of the boxed type of the property. -/
def signature (s : AccessorShape) : String :=
  let boxed :=
    match s.property.type.primitive? with
    | some p => TypeTree.ofClass p.boxed
    | none => s.property.type
  Descriptor.object ++ "Lcritter/mapping/PropertyAccessor<" ++
    (TypeTree.ofClass s.entity).signature ++ boxed.signature ++ ">;"

def flags : UInt16 := AccessFlag.isPublic ||| AccessFlag.isFinal

/-- Boxes what was read. -/
def boxCode (s : AccessorShape) : Code :=
  match s.property.type.primitive? with
  | some p => [.box p]
  | none => []

/-- Checks what is to be written. -/
def checkCode (s : AccessorShape) : Code :=
  match s.property.type.primitive? with
  | some p => [.unbox p]
  | none => [.checkCast s.property.type.castName]

def callReader (s : AccessorShape) : Code :=
  let reader := GeneratedName.reader s.property.name
  [.load 1, .checkCast s.entity,
   .invoke s.entity reader ("()" ++ s.property.type.erasedDescriptor)] ++ s.boxCode ++
    [.returnValue]

def callWriter (s : AccessorShape) : Code :=
  let writer := GeneratedName.writer s.property.name
  [.load 1, .checkCast s.entity, .load 2] ++ s.checkCode ++
    [.invoke s.entity writer ("(" ++ s.property.type.erasedDescriptor ++ ")V"), .returnVoid]

/-- The getter that calls the injected reader, written instruction by instruction. -/
def directReader (s : AccessorShape) : Code :=
  let code : Code := [.load 1, .checkCast s.entity,
    .invoke s.entity (GeneratedName.reader s.property.name)
      ("()" ++ s.property.type.erasedDescriptor)]
  let code :=
    match s.property.type.primitive? with
    | some p => code ++ [.box p]
    | none => code
  code ++ [.returnValue]

/-- The setter that calls the injected writer, written instruction by instruction. -/
def directWriter (s : AccessorShape) : Code :=
  let code : Code := [.load 1, .checkCast s.entity, .load 2]
  let code :=
    match s.property.type.primitive? with
    | some p => code ++ [.unbox p]
    | none => code ++ [.checkCast s.property.type.castName]
  code ++ [.invoke s.entity (GeneratedName.writer s.property.name)
    ("(" ++ s.property.type.erasedDescriptor ++ ")V"), .returnVoid]

/-- The class written piece by piece, with the locals counted by hand. -/
def directImage (s : AccessorShape) : ClassImage :=
  let image := ClassImage.ofName s.className .accessor flags
  let image := image.setSuper ClassName.object
  let image := image.setSignature s.signature
  let image := image.addInterface ClassName.accessor
  let image := image.addMethod
    ⟨Construction.name, Construction.plain, AccessFlag.isPublic, 1, [.returnVoid]⟩
  let image := image.addMethod
    ⟨AccessorMember.get.name, AccessorMember.get.descriptor, AccessFlag.isPublic, 2,
      s.directReader⟩
  image.addMethod
    ⟨AccessorMember.set.name, AccessorMember.set.descriptor, AccessFlag.isPublic, 3,
      s.directWriter⟩

def member (m : MethodRef) (code : Code) : MethodDef :=
  .ofCode m.name m.descriptor AccessFlag.isPublic code

def constructor (descriptor : String) (code : Code) : MethodDef :=
  .ofCode Construction.name descriptor AccessFlag.isPublic code

def head (s : AccessorShape) : ClassBody :=
  { name := s.className
    kind := .accessor
    flags
    superName := some ClassName.object
    signature := some s.signature
    interfaces := [ClassName.accessor] }

def callingBody (s : AccessorShape) : ClassBody :=
  { s.head with
    methods := [constructor Construction.plain [.returnVoid],
      member AccessorMember.get s.callReader, member AccessorMember.set s.callWriter] }

/-! The fields that hold handles. -/

def fieldHandle : String := "$field"
def getterHandle : String := "$getter"
def setterHandle : String := "$setter"

def handleField (name : String) : FieldDef :=
  ⟨name, Descriptor.handle, AccessFlag.isPrivate ||| AccessFlag.isFinal, none⟩

def handleFields (s : AccessorShape) : List FieldDef :=
  match s.property.access with
  | .field => [handleField fieldHandle]
  | .method _ _ => [handleField getterHandle, handleField setterHandle]

def bindCode (s : AccessorShape) : Code :=
  match s.property.access with
  | .field =>
    [Code.loadThis, .resolveField s.entity s.property.name, .putField s.className fieldHandle]
  | .method getter setter =>
    let bound (m : MethodRef) := Instruction.resolveMethod s.entity m.name m.descriptor true
    [Code.loadThis, bound getter, .putField s.className getterHandle,
     Code.loadThis, setter.elim .pushNull bound, .putField s.className setterHandle]

/-- Reads through a handle. -/
def readHandle (s : AccessorShape) : Code :=
  let handle := if s.property.access.isField then fieldHandle else getterHandle
  [Code.loadThis, .getField s.className handle, .load 1, .checkCast s.entity, .handleGet] ++
    s.boxCode ++ [.returnValue]

/-- Writes through a handle. Without a setter the handle is null, and the value is not checked. -/
def writeHandle (s : AccessorShape) : Code :=
  let (handle, check) :=
    match s.property.access with
    | .field => (fieldHandle, s.checkCode)
    | .method _ (some _) => (setterHandle, s.checkCode)
    | .method _ none => (setterHandle, [])
  [Code.loadThis, .getField s.className handle, .load 1, .checkCast s.entity, .load 2] ++ check ++
    [.handleSet s.entity s.property.name, .returnVoid]

def resolvingBody (s : AccessorShape) : ClassBody :=
  { s.head with
    fields := s.handleFields
    methods := [constructor Construction.plain (s.bindCode ++ [.returnVoid]),
      member AccessorMember.get s.readHandle, member AccessorMember.set s.writeHandle] }

end AccessorShape

def Backend.accessorClass (backend : Backend) (e : Entity) (p : Property) :
    Except GenerationError ClassRecord :=
  let shape : AccessorShape := ⟨e.name, p⟩
  if backend.needsAugmentation && !p.access.isField then
    .error (.unsupported e.name (.needsField backend p.name))
  else
    match backend with
    | .direct =>
      match shape.directImage.toBytes with
      | .ok bytes => .ok (.ofBytes shape.className bytes)
      | .error e => .error (.format e)
    | .builder => shape.callingBody.record
    | .resolved => shape.resolvingBody.record

end EntityForge
