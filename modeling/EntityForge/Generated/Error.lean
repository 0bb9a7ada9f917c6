import EntityForge.Failure
import EntityForge.Text.FaultTree

/-!
Errors of a generation pass over one entity.
-/

namespace EntityForge

inductive Backend where
  /-- Instructions written straight into an image. -/
  | direct
  /-- The same instructions, assembled as a class body. -/
  | builder
  /-- Handles that are bound in the constructor. -/
  | resolved
  deriving DecidableEq

namespace Backend

def label : Backend → String
  | direct => "direct"
  | builder => "builder"
  | resolved => "resolved"

def all : List Backend := [direct, builder, resolved]

def ofLabel? (name : String) : Option Backend := all.find? fun b => b.label = name

/-- Whether accessors call methods that must be injected into the entity. -/
def needsAugmentation : Backend → Bool
  | direct | builder => true
  | resolved => false

end Backend

inductive Refusal where
  | declaredTwice (property : String)
  | notAGetter (method descriptor : String)
  | voidGetter (method : String)
  | getterBacked (property : String)
  | needsField (backend : Backend) (property : String)
  | annotationArrayTooLong
  | annotationInside (typeName : String)
  | tooManyProperties
  deriving DecidableEq

def Refusal.message : Refusal → String
  | declaredTwice property => s!"property '{property}' is declared on both a field and a method"
  | notAGetter method descriptor => s!"annotated method {method}{descriptor} is not a getter"
  | voidGetter method => s!"getter {method} returns void"
  | getterBacked property =>
    s!"property '{property}' is getter-backed; only resolved-reference accessors support it"
  | needsField backend property =>
    s!"{backend.label} accessors need a field to front; '{property}' is getter-backed"
  | annotationArrayTooLong => "annotation array has too many elements"
  | annotationInside typeName => s!"nested annotation {typeName} cannot be replayed"
  | tooManyProperties => "too many properties"

inductive GenerationError where
  | unsupported (entity : String) (refusal : Refusal)
  | signature (entity property signature : String) (error : SignatureError)
  | invalid (entity : String) (faults : FaultTree)
  | format (error : FormatError)
  | failure (failure : Failure)
  | malformedSource (entity : String)

def GenerationError.message : GenerationError → String
  | unsupported entity refusal => s!"{entity}: {refusal.message}"
  | signature entity property written error =>
    s!"{entity}#{property}: bad type signature '{written}': {error.message}"
  | invalid entity faults => s!"{entity} failed validation:\n{faults.display}"
  | format error => error.message
  | failure f => f.message
  | malformedSource entity => s!"emitted source for {entity} does not parse"

/-- Whether the entity asks for something that cannot be generated. -/
def GenerationError.isUnsupported : GenerationError → Bool
  | unsupported _ _ => true
  | _ => false

end EntityForge
