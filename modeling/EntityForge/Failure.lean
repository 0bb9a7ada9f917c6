import EntityForge.Class.FormatError
import EntityForge.Metadata.Constant

/-!
Failures of loading, linking and running generated classes. Each has one cause; its category, the
part of the system that raises it and its text follow from the cause.
-/

namespace EntityForge

inductive FailureCategory where
  | conflict | corruption | invariantViolation | missingTarget | notFound | readOnly
  | typeMismatch | unsupported
  deriving DecidableEq

def FailureCategory.label : FailureCategory → String
  | conflict => "conflict"
  | corruption => "corruption"
  | invariantViolation => "invariant_violation"
  | missingTarget => "missing_target"
  | notFound => "not_found"
  | readOnly => "read_only"
  | typeMismatch => "type_mismatch"
  | unsupported => "unsupported"

inductive FailureOrigin where
  | accessor | format | loader | model | registry | machine
  deriving DecidableEq

def FailureOrigin.label : FailureOrigin → String
  | accessor => "accessor"
  | format => "format"
  | loader => "loader"
  | model => "model"
  | registry => "registry"
  | machine => "vm"

inductive ElementKind where
  | any | bool | classRef | double | enumeration | int | long | text | textArray
  deriving DecidableEq

def ElementKind.label : ElementKind → String
  | any => "Any"
  | bool => "Bool"
  | classRef => "Class"
  | double => "Double"
  | enumeration => "Enum"
  | int => "Int"
  | long => "Long"
  | text => "Text"
  | textArray => "TextArray"

/-- The greatest number of calls that may be open at once. -/
def maxCallDepth : Nat := 256

/-- Why loading, linking or running a class failed. `found` is the kind of the offending value. -/
inductive Failure where
  -- the registry
  | classNotFound (name : String)
  | bodyConflict (name : String)
  | superclassCycle (name : String)
  | nameMismatch (registered defined : String)
  -- class bodies
  | malformedBody (error : FormatError)
  | tooManyTypeArguments (raw : String) (count : Nat)
  | textListTooLong
  -- linking
  | constantMisfit (constant : Constant) (type : TypeTree)
  | badFieldDescriptor (className field : String) (error : SignatureError)
  -- running
  | callDepthExceeded (className method : String)
  | badMethodDescriptor (descriptor : String) (error : SignatureError)
  | argumentCount (method descriptor : String) (expected given : Nat)
  | argumentMisfit (method descriptor found : String) (param : TypeTree)
  | localOutOfRange (index : Nat) (method : String)
  | stackUnderflow (method : String)
  | operandMismatch (method expected found : String)
  | notAnInstance (expected className : String)
  | notAHandle (found : String)
  | nullHandle (method : String)
  | annotationNotOpen (method : String)
  | annotationsFieldHolds (found : String)
  | cannotCast (found target : String)
  | cannotBox (found : String) (p : Primitive)
  | cannotUnbox (found : String) (p : Primitive)
  | cannotReturn (method descriptor found : String)
  | thrown (className method message : String)
  | ranPastEnd (className method : String)
  | noField (name className : String)
  | noMethod (member className : String)
  | noConstructor (className descriptor : String)
  | slotOutOfRange (slot : Nat) (className : String)
  | danglingSlot (slot : Nat) (className : String)
  | cannotStore (found className field : String) (type : TypeTree)
  | wrongReceiver (handle className : String)
  | notAGetter (handle : String)
  | notASetter (handle : String)
  -- accessors
  | missingLookup (entity member : String) (cause : Failure)
  | noAccessorMethod (member entity : String)
  | readOnlyProperty (entity property : String)
  -- models
  | unexpectedKind (expected found : String)
  | notAnAccessor (className : String)
  | noAnnotationBuilder (typeName : String)
  | notAnElementValue (typeName element : String)
  | unknownElement (typeName element : String)
  | elementMismatch (typeName element : String) (kind : ElementKind) (found : String)
  | corruptTableType (signature : String) (error : SignatureError)
  | corruptTableAnnotations
  | tableWithoutAccessor (fullName : String)
  | noTableProperty (entity property : String)

namespace Failure

def accessorInterface : String := "critter.mapping.PropertyAccessor"

def category : Failure → FailureCategory
  | classNotFound _ => .notFound
  | bodyConflict _ => .conflict
  | malformedBody _ | corruptTableType _ _ | corruptTableAnnotations => .corruption
  | superclassCycle _ | nameMismatch _ _ | callDepthExceeded _ _ | badMethodDescriptor _ _
  | localOutOfRange _ _ | stackUnderflow _ | nullHandle _ | annotationNotOpen _ | ranPastEnd _ _
  | slotOutOfRange _ _ | danglingSlot _ _ => .invariantViolation
  | noField _ _ | noMethod _ _ | noConstructor _ _ | missingLookup _ _ _ | noAccessorMethod _ _
  | noTableProperty _ _ => .missingTarget
  | readOnlyProperty _ _ => .readOnly
  | tooManyTypeArguments _ _ | textListTooLong | thrown _ _ _ | noAnnotationBuilder _
  | unknownElement _ _ | tableWithoutAccessor _ => .unsupported
  | constantMisfit _ _ | badFieldDescriptor _ _ _ | argumentCount _ _ _ _ | argumentMisfit _ _ _ _
  | operandMismatch _ _ _ | notAnInstance _ _ | notAHandle _ | annotationsFieldHolds _
  | cannotCast _ _ | cannotBox _ _ | cannotUnbox _ _ | cannotReturn _ _ _ | cannotStore _ _ _ _
  | wrongReceiver _ _ | notAGetter _ | notASetter _ | unexpectedKind _ _ | notAnAccessor _
  | notAnElementValue _ _ | elementMismatch _ _ _ _ => .typeMismatch

def origin : Failure → FailureOrigin
  | classNotFound _ | bodyConflict _ | superclassCycle _ | nameMismatch _ _ => .registry
  | malformedBody _ | tooManyTypeArguments _ _ | textListTooLong => .format
  | constantMisfit _ _ | badFieldDescriptor _ _ _ => .loader
  | missingLookup _ _ _ | noAccessorMethod _ _ | readOnlyProperty _ _ => .accessor
  | unexpectedKind _ _ | notAnAccessor _ | noAnnotationBuilder _ | notAnElementValue _ _
  | unknownElement _ _ | elementMismatch _ _ _ _ | corruptTableType _ _ | corruptTableAnnotations
  | tableWithoutAccessor _ | noTableProperty _ _ => .model
  | _ => .machine

def message : Failure → String
  | classNotFound name => s!"generated class not found: {name}"
  | bodyConflict name => s!"generated class '{name}' already registered with a different body"
  | superclassCycle name => s!"superclass cycle through {name}"
  | nameMismatch registered defined => s!"body registered as '{registered}' defines '{defined}'"
  | malformedBody error => s!"malformed class body: {error.message}"
  | tooManyTypeArguments raw count =>
    s!"{raw} has {count} type arguments, at most 255 can be encoded"
  | textListTooLong => "a text list holds at most 65535 items"
  | constantMisfit constant type =>
    s!"constant {constant.display} does not fit a field of type {type.display}"
  | badFieldDescriptor className field error =>
    s!"{className}.{field}: bad field descriptor: {error.message}"
  | callDepthExceeded className method =>
    s!"call depth {maxCallDepth} exceeded in {className}.{method}"
  | badMethodDescriptor descriptor error => s!"{descriptor}: {error.message}"
  | argumentCount method descriptor expected given =>
    s!"{method}{descriptor} takes {expected} arguments, got {given}"
  | argumentMisfit method descriptor found param =>
    s!"{method}{descriptor}: argument {found} does not fit {param.display}"
  | localOutOfRange index method => s!"local {index} out of range in {method}"
  | stackUnderflow method => s!"operand stack underflow in {method}"
  | operandMismatch method expected found => s!"{method}: expected {expected}, found {found}"
  | notAnInstance expected className => s!"expected an instance of {expected}, found {className}"
  | notAHandle found => s!"expected a member handle, found {found}"
  | nullHandle method => s!"{method}: null handle"
  | annotationNotOpen method => s!"{method}: no open annotation"
  | annotationsFieldHolds found => s!"annotations field holds {found}"
  | cannotCast found target => s!"cannot cast {found} to {target}"
  | cannotBox found p => s!"cannot box {found} as {p.boxed}"
  | cannotUnbox found p => s!"cannot unbox {found} to {p.keyword}"
  | cannotReturn method descriptor found => s!"{method}{descriptor} cannot return {found}"
  | thrown className method message => s!"{className}.{method}: {message}"
  | ranPastEnd className method => s!"{className}.{method} ran past its last instruction"
  | noField name className => s!"no field '{name}' on {className}"
  | noMethod member className | noAccessorMethod member className =>
    s!"no method {member} on {className}"
  | noConstructor className descriptor => s!"{className} has no constructor {descriptor}"
  | slotOutOfRange slot className => s!"slot {slot} out of range for {className}"
  | danglingSlot slot className => s!"dangling slot {slot} on {className}"
  | cannotStore found className field type =>
    s!"cannot store {found} in {className}.{field} of type {type.display}"
  | wrongReceiver handle className => s!"{handle} used on an instance of {className}"
  | notAGetter handle => s!"{handle} is not a getter"
  | notASetter handle => s!"{handle} is not a setter"
  | missingLookup entity member cause =>
    s!"cannot resolve '{member}' on '{entity}': {cause.message}"
  | readOnlyProperty entity property =>
    s!"read-only property: {entity}#{property} has no setter"
  | unexpectedKind expected found => s!"expected {expected}, found {found}"
  | notAnAccessor className => s!"{className} does not implement {accessorInterface}"
  | noAnnotationBuilder typeName => s!"no annotation builder registered for {typeName}"
  | notAnElementValue typeName element =>
    s!"{typeName}.{element}: value cannot be an annotation element"
  | unknownElement typeName element => s!"{typeName} has no element '{element}'"
  | elementMismatch typeName element kind found =>
    s!"{typeName}.{element} expects {kind.label}, found {found}"
  | corruptTableType signature error => s!"static model {signature}: {error.message}"
  | corruptTableAnnotations => "static model annotation table"
  | tableWithoutAccessor fullName =>
    s!"static model {fullName} carries no accessor; use accessor_in"
  | noTableProperty entity property => s!"{entity} has no property '{property}'"

/-- The text behind origin and category. -/
def classified (f : Failure) : String :=
  s!"{f.origin.label}:{f.category.label}: {f.message}"

inductive Detail where
  | duplicate (name : String)
  | format (error : FormatError)
  | missingLookup (entity member : String) (cause : Failure)
  | readOnlyProperty (entity property : String)

def detail? : Failure → Option Detail
  | bodyConflict name => some (.duplicate name)
  | malformedBody error => some (.format error)
  | missingLookup entity member cause => some (.missingLookup entity member cause)
  | readOnlyProperty entity property => some (.readOnlyProperty entity property)
  | _ => none

def Detail.message : Detail → String
  | duplicate name => s!"duplicate class name '{name}'"
  | format error => error.message
  | missingLookup entity member cause =>
    s!"lookup of '{member}' on '{entity}' failed: {cause.message}"
  | readOnlyProperty entity property => s!"read-only property {entity}#{property}"

/-- The format error inside a failure. -/
def formatError? : Failure → Option FormatError
  | malformedBody error => some error
  | _ => none

/-- Whether a property without setter was set. -/
def isReadOnly (f : Failure) : Bool :=
  match f.detail? with
  | some (.readOnlyProperty _ _) => true
  | _ => false

/-- Whether a member could not be bound. -/
def isMissingLookup (f : Failure) : Bool :=
  match f.detail? with
  | some (.missingLookup _ _ _) => true
  | _ => false

def isNotFound (f : Failure) : Bool := f.category = .notFound

end Failure

end EntityForge
