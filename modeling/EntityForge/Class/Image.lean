import EntityForge.Class.Body
import EntityForge.Class.Pool

/-!
Writing class bodies. An image is a class under construction in which every name and literal has
become an index into the pool; the order in which parts are added fixes the order of the pool and
nothing else.
-/

namespace EntityForge

def magic : Bytes := [0x43, 0x52, 0x49, 0x54]

/-- The version of the body layout. -/
def formatVersion : UInt16 := 1

/-- What follows the opcode of an instruction: bytes and words as they are, texts and literals by
their index. -/
inductive Operand where
  | byte (value : UInt8)
  | word (value : UInt16)
  | constant (value : Constant)
  deriving DecidableEq

namespace Instruction

def textOperand (s : String) : Operand := .constant (.text s)

def boolOperand (b : Bool) : Operand := .byte (if b then 1 else 0)

def operands : Instruction → List Operand
  | nop | dup | pop | pushNull | annotationEnd | handleGet | returnValue | returnVoid => []
  | load i => [.byte i]
  | pushBool b => [boolOperand b]
  | loadConstant c => [.constant c]
  | getField className name | putField className name | resolveField className name =>
    [textOperand className, textOperand name]
  | invoke className name descriptor =>
    [textOperand className, textOperand name, textOperand descriptor]
  | new className descriptor => [textOperand className, textOperand descriptor]
  | checkCast target => [textOperand target]
  | box p | unbox p => [.byte p.code]
  | newType kind raw bound dims argc =>
    [.byte kind.tag, textOperand raw, .byte bound.tag, .byte dims, .byte argc]
  | newList n => [.word n]
  | newEnum typeName variant => [textOperand typeName, textOperand variant]
  | annotationBegin typeName => [textOperand typeName]
  | annotationSet element => [textOperand element]
  | resolveMethod className name descriptor required =>
    [textOperand className, textOperand name, textOperand descriptor, boolOperand required]
  | handleSet entity property => [textOperand entity, textOperand property]
  | intrinsic which => [.byte which.id]
  | throw message => [textOperand message]

end Instruction

namespace ConstantPool

/-- The bytes of operands, with the pool after their literals. -/
def operandBytes (pool : ConstantPool) : List Operand → Bytes × ConstantPool
  | [] => ([], pool)
  | .byte b :: rest =>
    let (bytes, pool) := operandBytes pool rest
    (b :: bytes, pool)
  | .word w :: rest =>
    let (bytes, pool) := operandBytes pool rest
    (BigEndian.word16 w ++ bytes, pool)
  | .constant c :: rest =>
    let (index, pool) := pool.intern c
    let (bytes, pool) := operandBytes pool rest
    (BigEndian.word16 index ++ bytes, pool)

/-- The bytes of each instruction behind those in `done`, which are reversed. -/
def codeParts (pool : ConstantPool) (done : List Bytes) :
    List Instruction → List Bytes × ConstantPool
  | [] => (done.reverse, pool)
  | i :: rest =>
    let (bytes, pool) := pool.operandBytes i.operands
    codeParts pool ((i.opcode :: bytes) :: done) rest

def codeBytes (pool : ConstantPool) (code : List Instruction) : Bytes × ConstantPool :=
  let (parts, pool) := pool.codeParts [] code
  (parts.flatten, pool)

end ConstantPool

structure FieldImage where
  name : UInt16
  descriptor : UInt16
  flags : UInt16
  initial : UInt16

structure MethodImage where
  name : UInt16
  descriptor : UInt16
  flags : UInt16
  maxLocals : UInt16
  code : Bytes

structure ClassImage where
  pool : ConstantPool
  name : UInt16
  kind : ClassKind
  flags : UInt16
  superName : UInt16 := 0
  signature : UInt16 := 0
  interfaces : Array UInt16 := #[]
  fields : Array FieldImage := #[]
  methods : Array MethodImage := #[]

namespace ClassImage

/-- A class with nothing but a name. -/
def ofName (name : String) (kind : ClassKind) (flags : UInt16) : ClassImage :=
  let (name, pool) := ConstantPool.internText {} name
  { pool, name, kind, flags }

def setSuper (name : String) (image : ClassImage) : ClassImage :=
  let (superName, pool) := image.pool.internText name
  { image with pool, superName }

def setSignature (signature : String) (image : ClassImage) : ClassImage :=
  let (signature, pool) := image.pool.internText signature
  { image with pool, signature }

def addInterface (image : ClassImage) (name : String) : ClassImage :=
  let (name, pool) := image.pool.internText name
  { image with pool, interfaces := image.interfaces.push name }

def addField (image : ClassImage) (f : FieldDef) : ClassImage :=
  let (name, pool) := image.pool.internText f.name
  let (descriptor, pool) := pool.internText f.descriptor
  let (initial, pool) :=
    match f.initial with
    | some c => pool.intern c
    | none => (0, pool)
  { image with pool, fields := image.fields.push ⟨name, descriptor, f.flags, initial⟩ }

def addMethod (image : ClassImage) (m : MethodDef) : ClassImage :=
  let (name, pool) := image.pool.internText m.name
  let (descriptor, pool) := pool.internText m.descriptor
  let (code, pool) := pool.codeBytes m.code
  { image with
    pool, methods := image.methods.push ⟨name, descriptor, m.flags, m.maxLocals, code⟩ }

/-- The number of entries of a table, which an index must be able to count. -/
def countBytes (part : SizedPart) (count : Nat) : Except FormatError Bytes :=
  if count ≤ 65535 then .ok (BigEndian.word16 (UInt16.ofNat count)) else .error (.tooLarge part)

def fieldBytes (f : FieldImage) : Bytes :=
  BigEndian.word16 f.name ++ BigEndian.word16 f.descriptor ++ BigEndian.word16 f.flags ++
    BigEndian.word16 f.initial

def methodBytes (m : MethodImage) : Except FormatError Bytes :=
  if m.code.length < UInt32.size then
    .ok (BigEndian.word16 m.name ++ BigEndian.word16 m.descriptor ++ BigEndian.word16 m.flags ++
      BigEndian.word16 m.maxLocals ++ BigEndian.word32 (UInt32.ofNat m.code.length) ++ m.code)
  else .error (.tooLarge .methodCode)

def toBytes (image : ClassImage) : Except FormatError Bytes := do
  let pool ← image.pool.toBytes
  let interfaceCount ← countBytes .interfaceTable image.interfaces.size
  let fieldCount ← countBytes .fieldTable image.fields.size
  let methodCount ← countBytes .methodTable image.methods.size
  let methods ← image.methods.toList.mapM methodBytes
  return magic ++ (BigEndian.word16 formatVersion ++ (pool ++
    (BigEndian.word16 image.name ++ (image.kind.tag :: (BigEndian.word16 image.flags ++
      (BigEndian.word16 image.superName ++ (BigEndian.word16 image.signature ++
        (interfaceCount ++ (image.interfaces.toList.flatMap BigEndian.word16 ++
          (fieldCount ++ (image.fields.toList.flatMap fieldBytes ++
            (methodCount ++ methods.flatten))))))))))))

end ClassImage

namespace ClassBody

/-- The image of a class: head, interfaces, fields and methods in this order. -/
def image (b : ClassBody) : ClassImage :=
  let image := ClassImage.ofName b.name b.kind b.flags
  let image := b.superName.elim image (ClassImage.setSuper · image)
  let image := b.signature.elim image (ClassImage.setSignature · image)
  let image := b.interfaces.foldl ClassImage.addInterface image
  let image := b.fields.foldl ClassImage.addField image
  b.methods.foldl ClassImage.addMethod image

def encode (b : ClassBody) : Except FormatError Bytes := b.image.toBytes

end ClassBody

end EntityForge
