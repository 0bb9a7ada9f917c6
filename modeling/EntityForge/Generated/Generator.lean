import EntityForge.Generated.EntityModelClass
import EntityForge.Generated.PropertyModelClass
import EntityForge.Model.Entity
import EntityForge.Registry.Store

/-!
Generation: all classes of an entity in one pass, from discovery to the entity model, and their
registration, which is all or nothing.
-/

namespace EntityForge

inductive GenerationMode where
  /-- The entity stays as it is declared, and accessors bind its members. -/
  | runtime
  /-- Readers and writers are injected into the entity for its accessors. -/
  | selfContained (backend : Backend)
  deriving DecidableEq

namespace GenerationMode

def backend : GenerationMode → Backend
  | runtime => .resolved
  | selfContained backend => backend

/-- Whether methods are injected into the entity. -/
def augmentsEntity : GenerationMode → Bool
  | runtime => false
  | selfContained _ => true

def label : GenerationMode → String
  | runtime => "runtime"
  | selfContained backend => "self-contained/" ++ backend.label

end GenerationMode

/-- What one pass made: the class of the entity, its accessors, the models of its properties and its
own model, in this order. -/
structure GeneratedEntity where
  entity : Entity
  mode : GenerationMode
  entityModelClass : String
  propertyModelClasses : List String
  accessorClasses : List String
  records : List ClassRecord

namespace GeneratedEntity

def name (g : GeneratedEntity) : String := g.entity.name

def classNames (g : GeneratedEntity) : List String := g.records.map (·.name)

end GeneratedEntity

/-- The outcome of generating several entities, in the order in which they were given. -/
structure GenerationReport where
  successes : List GeneratedEntity := []
  failures : List (String × GenerationError) := []

namespace GenerationReport

def isOk (r : GenerationReport) : Bool := r.failures.isEmpty

def success? (r : GenerationReport) (entity : String) : Option GeneratedEntity :=
  r.successes.find? fun g => g.name = entity

def failure? (r : GenerationReport) (entity : String) : Option GenerationError :=
  (r.failures.find? fun f => f.1 = entity).map (·.2)

end GenerationReport

structure Generator where
  config : MappingConfig
  mode : GenerationMode := .selfContained .direct

namespace Generator

def describe (g : Generator) (c : ClassMeta) : Except GenerationError Entity :=
  Entity.ofClass g.config c

def entityClass (g : Generator) (c : ClassMeta) (e : Entity) :
    Except GenerationError ClassRecord := do
  let body ← if g.mode.augmentsEntity then c.augmented e.properties else pure c.compiled
  body.record

/-- Makes every class of an entity. -/
def plan (g : Generator) (annotations : AnnotationRegistry) (c : ClassMeta) :
    Except GenerationError GeneratedEntity := do
  let entity ← g.describe c
  let entityClass ← g.entityClass c entity
  let accessors ← entity.properties.mapM (g.mode.backend.accessorClass entity)
  let propertyModels ← entity.properties.mapM (Property.modelClass annotations entity.name)
  let entityModel ← entity.modelClass annotations
  return {
    entity
    mode := g.mode
    entityModelClass := entityModel.name
    propertyModelClasses := propertyModels.map (·.name)
    accessorClasses := accessors.map (·.name)
    records := entityClass :: accessors ++ propertyModels ++ [entityModel] }

def pass (g : Generator) (c : ClassMeta) : Registering GenerationError GeneratedEntity := do
  let generated ← g.plan (← get).annotations c
  let _ ← (Registering.registerAll generated.records).adapt .failure
  return generated

def generate (g : Generator) (registry : ClassRegistry) (c : ClassMeta) :
    Except GenerationError (GeneratedEntity × ClassRegistry) := (g.pass c).accepted registry

/-- Adds one entity to a report. The registry is the one that the pass leaves, also if it fails. -/
def generateNext (g : Generator) (state : GenerationReport × ClassRegistry) (c : ClassMeta) :
    GenerationReport × ClassRegistry :=
  let (report, registry) := state
  match (g.pass c).on registry with
  | (.ok generated, registry) =>
    ({ report with successes := report.successes ++ [generated] }, registry)
  | (.error e, registry) => ({ report with failures := report.failures ++ [(c.name, e)] }, registry)

/-- Generates several entities; one that fails leaves the others alone. -/
def generateAll (g : Generator) (registry : ClassRegistry) (classes : List ClassMeta) :
    GenerationReport × ClassRegistry :=
  classes.foldl g.generateNext ({}, registry)

def entityModel (g : Generator) (generated : GeneratedEntity) : Run EntityModel :=
  EntityModel.ofClass generated.entityModelClass g.config

/-- The model that the description of a generated entity gives without any generated class. -/
def describedModel (g : Generator) (registry : ClassRegistry) (generated : GeneratedEntity) :
    Except Failure EntityModel :=
  EntityModel.ofEntity registry.annotations g.config generated.entity

end Generator

end EntityForge
