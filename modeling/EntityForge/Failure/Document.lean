import EntityForge.Failure
import EntityForge.Json.Access
import EntityForge.Text.FaultTree

/-!
Failures as documents: what a caller can tell failures apart by, with the texts. How an error of the
class format is written is up to the caller.
-/

namespace EntityForge

def SignatureError.label : SignatureError → String
  | empty => "Empty"
  | unexpectedEnd _ => "UnexpectedEnd"
  | unexpectedChar _ _ => "UnexpectedChar"
  | unbalanced _ => "Unbalanced"
  | emptyName _ => "EmptyName"
  | emptyArguments _ => "EmptyArguments"
  | tooDeep => "TooDeep"
  | tooManyDimensions _ => "TooManyDimensions"
  | unsupported _ _ => "Unsupported"
  | count _ _ => "Count"

def FormatError.label : FormatError → String
  | badMagic => "BadMagic"
  | badClassKind _ => "BadClassKind"
  | badBound _ _ => "BadBound"
  | badConstantIndex _ => "BadConstantIndex"
  | badConstantTag _ _ => "BadConstantTag"
  | badDescriptor _ _ => "BadDescriptor"
  | badIntrinsic _ _ => "BadIntrinsic"
  | badOpcode _ _ => "BadOpcode"
  | badPrimitive _ _ => "BadPrimitive"
  | badUtf8 _ => "BadUtf8"
  | notUtf8 _ => "ConstantKind"
  | localOutOfBounds _ _ _ => "LocalOutOfBounds"
  | missingTerminator _ => "MissingTerminator"
  | returnMismatch _ => "ReturnMismatch"
  | tooLarge _ => "TooLarge"
  | trailingBytes _ => "TrailingBytes"
  | unexpectedEof _ => "UnexpectedEof"
  | unsupportedVersion _ => "UnsupportedVersion"

namespace FaultTree

/-- All messages with their routes as documents. -/
def flatToJson (t : FaultTree) : Json :=
  .ofList (fun (route, message) => .array [.text route, .text message]) t.flatten

def toJson (t : FaultTree) : Json :=
  .object [("error", .text "ErrorTree"), ("message", .text t.display), ("len", .ofNat t.size),
    ("flat", t.flatToJson)]

end FaultTree

namespace Failure

/-- A detail as a document with further members. -/
def Detail.toJson (d : Detail) (kind : String) (members : List (String × Json)) : Json :=
  .object ([("kind", .text kind), ("text", .text d.message)] ++ members)

def describe (f : Failure) (detail : Json) : Json :=
  .object [("error", .text "InternalError"), ("class", .text f.category.label),
    ("origin", .text f.origin.label), ("message", .text f.message),
    ("display", .text f.classified), ("not_found", .bool f.isNotFound),
    ("read_only", .bool f.isReadOnly), ("missing_lookup", .bool f.isMissingLookup),
    ("format_error", .ofOption (fun e => .text e.label) f.formatError?), ("detail", detail)]

def toJson (format : FormatError → Json) : Failure → Json
  | missingLookup entity member cause =>
    (missingLookup entity member cause).describe
      ((Detail.missingLookup entity member cause).toJson "MissingLookup"
        [("entity", .text entity), ("member", .text member), ("cause", toJson format cause)])
  | bodyConflict name =>
    (bodyConflict name).describe ((Detail.duplicate name).toJson "Duplicate" [("name", .text name)])
  | malformedBody e =>
    (malformedBody e).describe ((Detail.format e).toJson "Format" [("format", format e)])
  | readOnlyProperty entity property =>
    (readOnlyProperty entity property).describe
      ((Detail.readOnlyProperty entity property).toJson "ReadOnlyProperty"
        [("entity", .text entity), ("property", .text property)])
  | f => f.describe .null

end Failure

end EntityForge
