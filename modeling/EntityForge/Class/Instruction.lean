import EntityForge.Metadata.Constant
import EntityForge.Type.Tree

/-!
Instructions of generated code. Code is straight-line: there are no jumps, and a method ends at its
first return or throw.
-/

namespace EntityForge

/-- A computation of the mapping policy, on the configuration and perhaps a name. -/
inductive Intrinsic where
  | collectionName | discriminator | discriminatorKey
  deriving DecidableEq

namespace Intrinsic

def id : Intrinsic → UInt8
  | collectionName => 0
  | discriminator => 1
  | discriminatorKey => 2

def ofId? (id : UInt8) : Option Intrinsic :=
  match id.toNat with
  | 0 => some collectionName
  | 1 => some discriminator
  | 2 => some discriminatorKey
  | _ => none

def label : Intrinsic → String
  | collectionName => "collection_name"
  | discriminator => "discriminator"
  | discriminatorKey => "discriminator_key"

end Intrinsic

inductive Instruction where
  | nop
  | load (index : UInt8)
  | dup
  | pop
  | pushNull
  | pushBool (value : Bool)
  | loadConstant (constant : Constant)
  | getField (className name : String)
  | putField (className name : String)
  | invoke (className name descriptor : String)
  | new (className descriptor : String)
  | checkCast (target : String)
  | box (p : Primitive)
  | unbox (p : Primitive)
  | newType (kind : TypeKind) (raw : String) (bound : Bound) (dims argc : UInt8)
  | newList (count : UInt16)
  | newEnum (typeName variant : String)
  | annotationBegin (typeName : String)
  | annotationSet (element : String)
  | annotationEnd
  | resolveField (className name : String)
  | resolveMethod (className name descriptor : String) (required : Bool)
  | handleGet
  | handleSet (entity property : String)
  | intrinsic (which : Intrinsic)
  | throw (message : String)
  | returnValue
  | returnVoid
  deriving DecidableEq

namespace Instruction

def opcode : Instruction → UInt8
  | nop => 0x00
  | load _ => 0x01
  | dup => 0x02
  | pop => 0x03
  | pushNull => 0x04
  | pushBool _ => 0x05
  | loadConstant _ => 0x06
  | getField _ _ => 0x10
  | putField _ _ => 0x11
  | invoke _ _ _ => 0x12
  | new _ _ => 0x13
  | checkCast _ => 0x14
  | box _ => 0x15
  | unbox _ => 0x16
  | newType _ _ _ _ _ => 0x20
  | newList _ => 0x21
  | newEnum _ _ => 0x22
  | annotationBegin _ => 0x23
  | annotationSet _ => 0x24
  | annotationEnd => 0x25
  | resolveField _ _ => 0x30
  | resolveMethod _ _ _ _ => 0x31
  | handleGet => 0x32
  | handleSet _ _ => 0x33
  | intrinsic _ => 0x40
  | throw _ => 0x50
  | returnValue => 0x51
  | returnVoid => 0x52

def mnemonic : Instruction → String
  | nop => "NOP"
  | load _ => "LOAD"
  | dup => "DUP"
  | pop => "POP"
  | pushNull => "PUSH_NULL"
  | pushBool _ => "PUSH_BOOL"
  | loadConstant _ => "LDC"
  | getField _ _ => "GET_FIELD"
  | putField _ _ => "PUT_FIELD"
  | invoke _ _ _ => "INVOKE"
  | new _ _ => "NEW"
  | checkCast _ => "CHECK_CAST"
  | box _ => "BOX"
  | unbox _ => "UNBOX"
  | newType _ _ _ _ _ => "NEW_TYPE"
  | newList _ => "NEW_LIST"
  | newEnum _ _ => "NEW_ENUM"
  | annotationBegin _ => "ANNOTATION_BEGIN"
  | annotationSet _ => "ANNOTATION_SET"
  | annotationEnd => "ANNOTATION_END"
  | resolveField _ _ => "RESOLVE_FIELD"
  | resolveMethod _ _ _ _ => "RESOLVE_METHOD"
  | handleGet => "HANDLE_GET"
  | handleSet _ _ => "HANDLE_SET"
  | intrinsic _ => "INTRINSIC"
  | throw _ => "THROW"
  | returnValue => "RETURN"
  | returnVoid => "RETURN_VOID"

/-- Whether a method may end with the instruction. -/
def isTerminal : Instruction → Bool
  | throw _ | returnValue | returnVoid => true
  | _ => false

end Instruction

namespace TypeKind

def letter : TypeKind → Char
  | primitive p => p.letter
  | classType => 'L'
  | .variable => 'T'
  | wildcard => '*'

def tag (kind : TypeKind) : UInt8 := kind.letter.toUInt8

def ofTag? (tag : UInt8) : Option TypeKind :=
  match Char.ofNat tag.toNat with
  | 'L' => some classType
  | 'T' => some .variable
  | '*' => some wildcard
  | c => (Primitive.ofLetter? c).map primitive

end TypeKind

namespace Bound

def tag : Bound → UInt8
  | exact => 0
  | upper => 1
  | lower => 2

def ofTag? (tag : UInt8) : Option Bound :=
  match tag.toNat with
  | 0 => some exact
  | 1 => some upper
  | 2 => some lower
  | _ => none

end Bound

end EntityForge
