import EntityForge.Text.Hex
import EntityForge.Type.Signature

/-!
Violations of the binary class format. Offsets count from the first byte of the body.
-/

namespace EntityForge

inductive SizedPart where
  | constantPool | utf8Constant | interfaceTable | fieldTable | methodTable | methodCode
  deriving DecidableEq

def SizedPart.label : SizedPart → String
  | constantPool => "constant pool"
  | utf8Constant => "utf8 constant"
  | interfaceTable => "interface table"
  | fieldTable => "field table"
  | methodTable => "method table"
  | methodCode => "method code"

inductive FormatError where
  | badMagic
  | badClassKind (tag : UInt8)
  | badBound (tag : UInt8) (offset : Nat)
  | badConstantIndex (index : UInt16)
  | badConstantTag (tag : UInt8) (offset : Nat)
  | badDescriptor (descriptor : String) (reason : SignatureError)
  | badIntrinsic (id : UInt8) (offset : Nat)
  | badOpcode (opcode : UInt8) (offset : Nat)
  | badPrimitive (code : UInt8) (offset : Nat)
  | badUtf8 (index : UInt16)
  | notUtf8 (index : UInt16)
  | localOutOfBounds (method : String) (index limit : UInt16)
  | missingTerminator (method : String)
  | returnMismatch (method : String)
  | tooLarge (part : SizedPart)
  | trailingBytes (count : Nat)
  | unexpectedEof (offset : Nat)
  | unsupportedVersion (version : UInt16)
  deriving DecidableEq

def FormatError.message : FormatError → String
  | badMagic => "bad magic"
  | badClassKind tag => s!"unknown class kind {tag.toNat}"
  | badBound tag offset => s!"bad bound tag {tag.toNat} at offset {offset}"
  | badConstantIndex index => s!"constant pool index {index.toNat} out of range"
  | badConstantTag tag offset => s!"unknown constant tag {tag.toNat} at offset {offset}"
  | badDescriptor descriptor reason => s!"bad descriptor '{descriptor}': {reason.message}"
  | badIntrinsic id offset => s!"unknown intrinsic {id.toNat} at offset {offset}"
  | badOpcode opcode offset =>
    s!"unknown opcode 0x{Text.hexPadded 2 opcode.toNat} at offset {offset}"
  | badPrimitive code offset => s!"unknown primitive code {code.toNat} at offset {offset}"
  | badUtf8 index => s!"constant {index.toNat} is not valid utf-8"
  | notUtf8 index => s!"constant {index.toNat} is not a utf8"
  | localOutOfBounds method index limit =>
    s!"method '{method}' reads local {index.toNat} but declares {limit.toNat} locals"
  | missingTerminator method => s!"method '{method}' does not end in a return or throw"
  | returnMismatch method => s!"method '{method}' returns in a way its descriptor forbids"
  | tooLarge part => s!"{part.label} exceeds the format's limit"
  | trailingBytes count => s!"{count} trailing bytes after class body"
  | unexpectedEof offset => s!"unexpected end of body at offset {offset}"
  | unsupportedVersion version => s!"unsupported format version {version.toNat}"

end EntityForge
