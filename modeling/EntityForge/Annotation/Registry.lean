import EntityForge.Value.Basic

/-!
Annotation kinds: which elements an annotation has, of which kind, and with which defaults. An
annotation is completed against its kind element by element.
-/

namespace EntityForge

namespace ElementKind

def isText : ElementValue → Bool
  | .text _ => true
  | _ => false

/-- The value as one of this kind, widened where the kind allows it. -/
def coerce? : ElementKind → ElementValue → Option ElementValue
  | any, v => some v
  | bool, .bool b => some (.bool b)
  | double, .double d => some (.double d)
  | double, .int i => some (.double (.ofQuotient (i.toInt < 0) i.toInt.natAbs 1))
  | enumeration, .enumeration t v => some (.enumeration t v)
  | int, .int i => some (.int i)
  | long, .long i => some (.long i)
  | long, .int i => some (.long (Int64.ofInt i.toInt))
  | text, .text s => some (.text s)
  | classRef, .classRef s => some (.classRef s)
  | classRef, .text s => some (.classRef s)
  | textArray, .text s => some (.array [.text s])
  | textArray, .array items => if items.all isText then some (.array items) else none
  | _, _ => none

end ElementKind

structure ElementSpec where
  name : String
  kind : ElementKind
  default : Option ElementValue

namespace ElementSpec

def unsetText (name : String) : ElementSpec := ⟨name, .text, some (.text Annotation.unsetText)⟩

/-- A boolean element with a default. -/
def flag (name : String) (default : Bool) : ElementSpec := ⟨name, .bool, some (.bool default)⟩

end ElementSpec

structure AnnotationKind where
  typeName : String
  elements : List ElementSpec

/-- The first declared element of a name. -/
def AnnotationKind.element? (k : AnnotationKind) (name : String) : Option ElementSpec :=
  k.elements.find? fun e => e.name = name

structure AnnotationDraft where
  kind : AnnotationKind
  values : Keyed ElementValue := []

namespace AnnotationDraft

/-- Sets an element to a value that its kind accepts. -/
def setValue (d : AnnotationDraft) (element : String) (value : ElementValue) :
    Except Failure AnnotationDraft :=
  match d.kind.element? element with
  | none => .error (.unknownElement d.kind.typeName element)
  | some spec =>
    match spec.kind.coerce? value with
    | none => .error (.elementMismatch d.kind.typeName element spec.kind value.kindName)
    | some value => .ok { d with values := d.values.insert element value }

def set (d : AnnotationDraft) (element : String) (value : Value) : Except Failure AnnotationDraft :=
  match value.toElementValue? with
  | none => .error (.notAnElementValue d.kind.typeName element)
  | some value => d.setValue element value

/-- The finished annotation, every element that is not set at its default. -/
def build (d : AnnotationDraft) : Annotation :=
  { typeName := d.kind.typeName
    values := d.kind.elements.foldl (fun values spec =>
      match spec.default with
      | some default =>
        if values.contains spec.name then values else values.insert spec.name default
      | none => values) d.values }

end AnnotationDraft

structure AnnotationRegistry where
  kinds : Keyed AnnotationKind

namespace AnnotationRegistry

def empty : AnnotationRegistry := ⟨[]⟩

/-- Registers a kind, replacing one of the same name. -/
def register (r : AnnotationRegistry) (k : AnnotationKind) : AnnotationRegistry :=
  ⟨r.kinds.insert k.typeName k⟩

def builtinKinds : List AnnotationKind :=
  [⟨AnnotationNames.id, []⟩,
   ⟨AnnotationNames.property, [.unsetText "value"]⟩,
   ⟨AnnotationNames.reference, [.unsetText "value", .flag "lazy" false,
     .flag "ignoreMissing" false, .flag "idOnly" false]⟩,
   ⟨AnnotationNames.version, [.unsetText "value"]⟩,
   ⟨AnnotationNames.alsoLoad, [⟨"value", .textArray, some (.array [])⟩]⟩,
   ⟨AnnotationNames.entity, [.unsetText "value", .unsetText "discriminator",
     .unsetText "discriminatorKey", .flag "useDiscriminator" true]⟩,
   ⟨AnnotationNames.embedded, [.unsetText "value"]⟩,
   ⟨AnnotationNames.transient, []⟩,
   ⟨AnnotationNames.notSaved, []⟩]

def builtin : AnnotationRegistry := builtinKinds.foldl register empty

def get? (r : AnnotationRegistry) (typeName : String) : Option AnnotationKind :=
  r.kinds.get? typeName

def contains (r : AnnotationRegistry) (typeName : String) : Bool := r.kinds.contains typeName

/-- Begins an annotation of a registered kind. -/
def draft (r : AnnotationRegistry) (typeName : String) : Except Failure AnnotationDraft :=
  match r.get? typeName with
  | some kind => .ok { kind }
  | none => .error (.noAnnotationBuilder typeName)

/-- Checks an annotation against its kind and fills in the defaults. -/
def complete (r : AnnotationRegistry) (a : Annotation) : Except Failure Annotation := do
  let draft ← r.draft a.typeName
  let draft ← a.values.foldlM (fun d (element, value) => d.setValue element value) draft
  return draft.build

/-- The registered ones of some annotations, completed: what a model answers for them. -/
def replayed (r : AnnotationRegistry) (annotations : List Annotation) :
    Except Failure (List Annotation) :=
  (annotations.filter fun a => r.contains a.typeName).mapM r.complete

end AnnotationRegistry

end EntityForge
