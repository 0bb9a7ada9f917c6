import EntityForge.Bytes.Reader
import EntityForge.Class.Image

/-!
Reading class bodies. Whatever could not run is refused here: descriptors that do not resolve,
locals out of range, code without an end, and returns that contradict the descriptor. The first
fault in reading order is reported.
-/

namespace EntityForge

abbrev FormatReader := Reader FormatError

namespace FormatReader

def take (n : Nat) : FormatReader Bytes := Reader.take .unexpectedEof n

def byte : FormatReader UInt8 := do
  let bytes ← take 1
  return UInt8.ofNat (BigEndian.value bytes)

def word16 : FormatReader UInt16 := do
  let bytes ← take 2
  return UInt16.ofNat (BigEndian.value bytes)

def word32 : FormatReader UInt32 := do
  let bytes ← take 4
  return UInt32.ofNat (BigEndian.value bytes)

def word64 : FormatReader UInt64 := do
  let bytes ← take 8
  return UInt64.ofNat (BigEndian.value bytes)

/-- Reads the entry of a pool that gets the given index. -/
def poolEntry (index : Nat) : FormatReader Constant := do
  let offset ← Reader.offset
  let tag ← byte
  match tag.toNat with
  | 1 =>
    let length ← word16
    let bytes ← take length.toNat
    match String.fromUTF8? ⟨bytes.toArray⟩ with
    | some s => return .text s
    | none => Reader.fail (.badUtf8 (UInt16.ofNat index))
  | 3 => return .int (← word32).toInt32
  | 4 => return .float ⟨← word32⟩
  | 5 => return .long (← word64).toInt64
  | 6 => return .double ⟨← word64⟩
  | _ => Reader.fail (.badConstantTag tag offset)

/-- Reads `n` entries of a pool behind those in `table`. -/
def poolEntries (table : ConstantTable) : Nat → FormatReader ConstantTable
  | 0 => Reader.pure table
  | n + 1 => Reader.bind (poolEntry (table.size + 1)) fun c => poolEntries (table.push c) n

/-- Reads a pool. Entries may be repeated. -/
def pool : FormatReader ConstantTable := do
  let count ← word16
  poolEntries #[] count.toNat

def text (table : ConstantTable) : FormatReader String := do
  let index ← word16
  Reader.ofExcept (table.utf8At index)

/-- Reads the index of a text or zero. -/
def optionalText (table : ConstantTable) : FormatReader (Option String) := do
  let index ← word16
  Reader.ofExcept (table.optionalUtf8At index)

def constant (table : ConstantTable) : FormatReader Constant := do
  let index ← word16
  Reader.ofExcept (table.get index)

/-- Reads the index of a literal or zero. -/
def optionalConstant (table : ConstantTable) : FormatReader (Option Constant) := do
  let index ← word16
  if index = 0 then return none
  else
    let c ← Reader.ofExcept (table.get index)
    return some c

end FormatReader

def checkType (descriptor : String) : Except FormatError TypeTree :=
  (Signature.parseType descriptor).mapError (.badDescriptor descriptor)

def checkMethodType (descriptor : String) : Except FormatError MethodType :=
  (MethodType.parse descriptor).mapError (.badDescriptor descriptor)

/-- Whether a cast target is an array descriptor, not a class name. -/
def isArrayTarget (target : String) : Bool := target.toList.head? = some '['

namespace FormatReader

def methodDescriptor (table : ConstantTable) : FormatReader String := do
  let descriptor ← text table
  let _ ← Reader.ofExcept (checkMethodType descriptor)
  return descriptor

def castTarget (table : ConstantTable) : FormatReader String := do
  let target ← text table
  if isArrayTarget target then
    let _ ← Reader.ofExcept (checkType target)
    return target
  else return target

/-- Reads a byte that stands for something, and fails at its offset when it does not. -/
def coded {α : Type} (ofByte? : UInt8 → Option α) (bad : UInt8 → Nat → FormatError) :
    FormatReader α := do
  let offset ← Reader.offset
  let b ← byte
  match ofByte? b with
  | some a => return a
  | none => Reader.fail (bad b offset)

def primitive : FormatReader Primitive :=
  coded (fun b => (Primitive.ofCode? b).filter (· ≠ .void)) .badPrimitive

/-- Reads a boolean; every byte but zero counts as true. -/
def bool : FormatReader Bool := do
  let b ← byte
  return b ≠ 0

/-- Reads the operands of the instruction with an opcode that stands at an offset. -/
def instruction (table : ConstantTable) (offset : Nat) (opcode : UInt8) :
    FormatReader Instruction := do
  match opcode.toNat with
  | 0x00 => return .nop
  | 0x01 => return .load (← byte)
  | 0x02 => return .dup
  | 0x03 => return .pop
  | 0x04 => return .pushNull
  | 0x05 => return .pushBool (← bool)
  | 0x06 => return .loadConstant (← constant table)
  | 0x10 => return .getField (← text table) (← text table)
  | 0x11 => return .putField (← text table) (← text table)
  | 0x12 => return .invoke (← text table) (← text table) (← methodDescriptor table)
  | 0x13 => return .new (← text table) (← methodDescriptor table)
  | 0x14 => return .checkCast (← castTarget table)
  | 0x15 => return .box (← primitive)
  | 0x16 => return .unbox (← primitive)
  | 0x20 =>
    let kind ← coded TypeKind.ofTag? .badPrimitive
    let raw ← text table
    let bound ← coded Bound.ofTag? .badBound
    return .newType kind raw bound (← byte) (← byte)
  | 0x21 => return .newList (← word16)
  | 0x22 => return .newEnum (← text table) (← text table)
  | 0x23 => return .annotationBegin (← text table)
  | 0x24 => return .annotationSet (← text table)
  | 0x25 => return .annotationEnd
  | 0x30 => return .resolveField (← text table) (← text table)
  | 0x31 =>
    return .resolveMethod (← text table) (← text table) (← methodDescriptor table) (← bool)
  | 0x32 => return .handleGet
  | 0x33 => return .handleSet (← text table) (← text table)
  | 0x40 => return .intrinsic (← coded Intrinsic.ofId? .badIntrinsic)
  | 0x50 => return .throw (← text table)
  | 0x51 => return .returnValue
  | 0x52 => return .returnVoid
  | _ => Reader.fail (.badOpcode opcode offset)

end FormatReader

namespace MethodDef

/-- The number of locals that the receiver and the arguments take. -/
def argumentLocals (arity : Nat) : UInt16 := UInt16.ofNat (min (arity + 1) 65535)

/-- The check of one instruction against the method around it. -/
def checkInstruction (m : MethodDef) (type : MethodType) : Instruction → Except FormatError Unit
  | .load i =>
    if m.maxLocals ≤ i.toUInt16 then .error (.localOutOfBounds m.name i.toUInt16 m.maxLocals)
    else .ok ()
  | .returnValue => if type.result.isNone then .error (.returnMismatch m.name) else .ok ()
  | .returnVoid => if type.result.isSome then .error (.returnMismatch m.name) else .ok ()
  | _ => .ok ()

/-- The checks that need the whole method: the arguments fit the locals, the code ends, every local
is there, and returns agree with the descriptor. -/
def validate (m : MethodDef) : Except FormatError Unit := do
  let type ← checkMethodType m.descriptor
  let needed := argumentLocals type.arity
  if m.maxLocals < needed then .error (.localOutOfBounds m.name (needed - 1) m.maxLocals)
  else if !(m.code.getLast?.any (·.isTerminal)) then .error (.missingTerminator m.name)
  else m.code.forM (m.checkInstruction type)

end MethodDef

namespace FormatReader

def field (table : ConstantTable) : FormatReader FieldDef := do
  let name ← text table
  let descriptor ← text table
  let flags ← word16
  let initial ← optionalConstant table
  let _ ← Reader.ofExcept (checkType descriptor)
  return { name, descriptor, flags, initial }

/-- Reads a method. Its code is a byte string of its own, read to its end. -/
def method (table : ConstantTable) : FormatReader MethodDef := do
  let name ← text table
  let descriptor ← text table
  let flags ← word16
  let maxLocals ← word16
  let length ← word32
  let offset ← Reader.offset
  let bytes ← take length.toNat
  let code ← Reader.ofExcept (Reader.untilEnd (instruction table) ⟨bytes, offset⟩)
  let m : MethodDef := { name, descriptor, flags, maxLocals, code }
  let _ ← Reader.ofExcept m.validate
  return m

/-- Reads the head of a body: magic number and version. -/
def head : FormatReader Unit := do
  let bytes ← Reader.take (fun _ => .badMagic) magic.length
  if bytes ≠ magic then Reader.fail .badMagic
  else
    let version ← word16
    if version ≠ formatVersion then Reader.fail (.unsupportedVersion version) else return ()

def classBody : FormatReader ClassBody := do
  let _ ← head
  let table ← pool
  let name ← text table
  let tag ← byte
  let kind ← Reader.ofExcept <|
    match ClassKind.ofTag? tag with
    | some kind => .ok kind
    | none => .error (.badClassKind tag)
  let flags ← word16
  let superName ← optionalText table
  let signature ← optionalText table
  let interfaceCount ← word16
  let interfaces ← Reader.times (text table) interfaceCount.toNat
  let fieldCount ← word16
  let fields ← Reader.times (field table) fieldCount.toNat
  let methodCount ← word16
  let methods ← Reader.times (method table) methodCount.toNat
  let trailing ← Reader.remaining
  if trailing ≠ 0 then Reader.fail (.trailingBytes trailing)
  else return { name, kind, flags, superName, signature, interfaces, fields, methods }

end FormatReader

def ClassBody.decode (bytes : Bytes) : Except FormatError ClassBody :=
  (FormatReader.classBody.run ⟨bytes, 0⟩).map (·.1)

end EntityForge
