import EntityForge.Number.Binary
import EntityForge.Text.Keyed

/-!
Annotations: a type name with the element values that were written at the use site. Values are
tagged; an annotation may hold arrays and further annotations.
-/

namespace EntityForge

open Number

inductive ElementValue where
  | bool (value : Bool)
  | int (value : Int32)
  | long (value : Int64)
  | double (value : Binary64)
  | text (value : String)
  | enumeration (typeName variant : String)
  | classRef (name : String)
  | array (items : List ElementValue)
  | nested (typeName : String) (values : List (String × ElementValue))
  deriving Inhabited

/-- An annotation: its type and its explicit element values, ordered by element name. -/
structure Annotation where
  typeName : String
  values : Keyed ElementValue
  deriving Inhabited

namespace ElementValue

def kindName : ElementValue → String
  | bool _ => "bool"
  | int _ => "int"
  | long _ => "long"
  | double _ => "double"
  | text _ => "text"
  | enumeration _ _ => "enum"
  | classRef _ => "class"
  | array _ => "array"
  | nested _ _ => "annotation"

mutual

/-- Equality of values, by number for doubles. -/
def same : ElementValue → ElementValue → Bool
  | bool a, bool b => a = b
  | int a, int b => a = b
  | long a, long b => a = b
  | double a, double b => a.numEq b
  | text a, text b => a = b
  | enumeration t v, enumeration t' v' => t = t' && v = v'
  | classRef a, classRef b => a = b
  | array a, array b => sameItems a b
  | nested t a, nested t' b => t = t' && sameEntries a b
  | _, _ => false

def sameItems : List ElementValue → List ElementValue → Bool
  | [], [] => true
  | a :: as, b :: bs => same a b && sameItems as bs
  | _, _ => false

def sameEntries : List (String × ElementValue) → List (String × ElementValue) → Bool
  | [], [] => true
  | (k, a) :: as, (k', b) :: bs => k = k' && same a b && sameEntries as bs
  | _, _ => false

end

def text? : ElementValue → Option String
  | text s => some s
  | _ => none

end ElementValue

namespace Annotation

def ofType (typeName : String) : Annotation := ⟨typeName, []⟩

def set (a : Annotation) (element : String) (value : ElementValue) : Annotation :=
  { a with values := a.values.insert element value }

/-- Equality of type and values. -/
def same (a b : Annotation) : Bool :=
  a.typeName = b.typeName && ElementValue.sameEntries a.values b.values

def toValue (a : Annotation) : ElementValue := .nested a.typeName a.values

def value? (a : Annotation) (element : String) : Option ElementValue := a.values.get? element

def text? (a : Annotation) (element : String) : Option String := (a.value? element).bind (·.text?)

def bool? (a : Annotation) (element : String) : Option Bool :=
  match a.value? element with
  | some (.bool b) => some b
  | _ => none

/-- The text that elements use for "not set". -/
def unsetText : String := "."

/-- The value of a text element that is neither empty nor marked as not set. -/
def explicitText? (a : Annotation) (element : String) : Option String :=
  (a.text? element).filter fun s => s ≠ "" && s ≠ unsetText

/-- The texts of an array element; a lone text counts as one. -/
def texts (a : Annotation) (element : String) : List String :=
  match a.value? element with
  | some (.array items) => items.filterMap (·.text?)
  | some (.text s) => [s]
  | _ => []

end Annotation

def Annotations.find? (annotations : List Annotation) (typeName : String) : Option Annotation :=
  List.find? (fun a => a.typeName = typeName) annotations

/-! The annotation types that the mapping itself knows. -/

namespace AnnotationNames

def alsoLoad : String := "critter.annotations.AlsoLoad"
def embedded : String := "critter.annotations.Embedded"
def entity : String := "critter.annotations.Entity"
def id : String := "critter.annotations.Id"
def notSaved : String := "critter.annotations.NotSaved"
def property : String := "critter.annotations.Property"
def reference : String := "critter.annotations.Reference"
def transient : String := "critter.annotations.Transient"
def version : String := "critter.annotations.Version"

/-- The general marker for properties that are not stored. -/
def beanTransient : String := "java.beans.Transient"

end AnnotationNames

end EntityForge
