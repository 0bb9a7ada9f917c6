import EntityForge.Model.Table

/-!
Property models: one set of queries with three kinds of answers. A generated model is asked through
its methods, a described one answers from the descriptor, and a row of a table from its literals.
-/

namespace EntityForge

def Run.ask (object : Nat) (query : MethodRef) : Run Value :=
  Run.invoke object query.name query.descriptor []

inductive PropertyModel where
  | generated (object : Nat)
  | described (entity : String) (property : Property) (annotations : List Annotation)
  | row (row : PropertyRow)

namespace PropertyModel

/-- The model of a described property, with the annotations that a generated model would have. -/
def ofProperty (registry : AnnotationRegistry) (entity : String) (p : Property) :
    Except Failure PropertyModel :=
  (registry.replayed p.annotations).map (described entity p)

def text (query : MethodRef) (ofProperty : String → Property → String)
    (ofRow : PropertyRow → String) : PropertyModel → Run String
  | generated object => do (← Run.ask object query).toText
  | described entity p _ => return ofProperty entity p
  | row r => return ofRow r

def flag (query : MethodRef) (ofFlags : PropertyFlags → Bool) : PropertyModel → Run Bool
  | generated object => do (← Run.ask object query).toBool
  | described _ p _ => return ofFlags p.flags
  | row r => return ofFlags r.flags

def name : PropertyModel → Run String := text PropertyQuery.name (fun _ p => p.name) (·.name)

/-- The name behind that of the entity. -/
def fullName : PropertyModel → Run String :=
  text PropertyQuery.fullName (fun entity p => p.fullName entity) (·.fullName)

def mappedName : PropertyModel → Run String :=
  text PropertyQuery.mappedName (fun _ p => p.mappedName) (·.mappedName)

def loadNames : PropertyModel → Run (List String)
  | generated object => do (← Run.ask object PropertyQuery.loadNames).toTexts
  | described _ p _ => return p.loadNames
  | row r => return r.loadNames

def type : PropertyModel → Run TypeTree
  | generated object => do (← Run.ask object PropertyQuery.typeData).toType
  | described _ p _ => return p.type
  | row r => r.type

def isArray : PropertyModel → Run Bool := flag PropertyQuery.isArray (·.array)

def isMap : PropertyModel → Run Bool := flag PropertyQuery.isMap (·.map)

def isSet : PropertyModel → Run Bool := flag PropertyQuery.isSet (·.set)

def isCollection : PropertyModel → Run Bool := flag PropertyQuery.isCollection (·.collection)

def isFinal : PropertyModel → Run Bool := flag PropertyQuery.isFinal (·.constant)

def isTransient : PropertyModel → Run Bool := flag PropertyQuery.isTransient (·.transient)

def isReference : PropertyModel → Run Bool := flag PropertyQuery.isReference (·.reference)

def isId : PropertyModel → Run Bool := flag PropertyQuery.isId (·.id)

def isVersion : PropertyModel → Run Bool := flag PropertyQuery.isVersion (·.version)

def annotationsOf (v : Value) : Except Failure (List Annotation) := do
  (← v.toList).mapM Value.toAnnotation

def annotations : PropertyModel → Run (List Annotation)
  | generated object => do annotationsOf (← Run.ask object PropertyQuery.annotations)
  | described _ _ annotations => return annotations
  | row r => r.annotations

/-- The accessor. A row of a table has none, since its class is not instantiated. -/
def accessor : PropertyModel → Run Accessor
  | generated object => do
    Accessor.ofObject (← (← Run.ask object PropertyQuery.accessor).toObject)
  | described entity p _ => Accessor.ofProperty entity p
  | row r => throw (.tableWithoutAccessor r.fullName)

def isMultiple (m : PropertyModel) : Run Bool := do
  if ← m.isArray then return true
  else if ← m.isMap then return true
  else m.isCollection

def annotation? (m : PropertyModel) (typeName : String) : Run (Option Annotation) :=
  return Annotations.find? (← m.annotations) typeName

end PropertyModel

end EntityForge
