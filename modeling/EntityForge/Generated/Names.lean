import EntityForge.Text.CaseMapping
import EntityForge.Text.Qualified

/-!
Names of generated classes. They lie in a reserved subpackage of the entity's package and hold the
entity's simple name and the property's name as they are, so that distinct entities and properties
never share a class: entity models stand directly in the subpackage, classes of properties one level
below, told apart by their last word.
-/

namespace EntityForge

namespace GeneratedName

/-- The reserved last segment of the package of generated classes. -/
def reservedSegment : String := "__critter"

/-- The package of the classes generated for the entities of one package. -/
def package (entity : String) : String :=
  match Qualified.packageName entity with
  | "" => reservedSegment
  | package => package ++ "." ++ reservedSegment

/-- The package of the classes generated for the properties of an entity. -/
def scope (entity : String) : String := package entity ++ "." ++ Qualified.simpleName entity

def accessor (entity property : String) : String := scope entity ++ "." ++ property ++ "Accessor"

def propertyModel (entity property : String) : String := scope entity ++ "." ++ property ++ "Model"

def entityModel (entity : String) : String :=
  package entity ++ "." ++ Qualified.simpleName entity ++ "EntityModel"

def reader (property : String) : String := "__read_" ++ property

def writer (property : String) : String := "__write_" ++ property

/-- The file that holds the table of an entity, without its extension. -/
def fileStem (entity : String) : String := Qualified.simpleName entity

end GeneratedName

/-! Names of properties and the names of methods that stand for them. -/

namespace BeanName

/-- A property name as it follows `get` or `set`: the first letter in upper case. -/
def capitalize (name : String) : String :=
  match name.toList with
  | [] => ""
  | c :: rest => String.ofList (Text.uppercaseChar c ++ rest)

/-- The property name of what follows `get` or `set`: the first letter in lower case, unless the
first two are capitals. -/
def decapitalize (name : String) : String :=
  match name.toList with
  | [] => ""
  | [c] => String.ofList (Text.lowercaseChar c)
  | c :: d :: rest =>
    if Text.isUppercase c && Text.isUppercase d then name
    else String.ofList (Text.lowercaseChar c ++ d :: rest)

/-- What follows the first word of a method name, if that is the given one. -/
def suffix? (word name : String) : Option String :=
  if word.toList.isPrefixOf name.toList then some (String.ofList (name.toList.drop word.length))
  else none

end BeanName

end EntityForge
