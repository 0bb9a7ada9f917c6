import EntityForge.Annotation.Printer
import EntityForge.Generated.EntityModelClass
import EntityForge.Model.Table
import EntityForge.Source.ModulePath
import EntityForge.Source.Token

/-!
Tables as source text: the table of an entity, and the module that declares it as constants.
-/

namespace EntityForge

/-- The annotations that a model replays, completed, as JSON. -/
def AnnotationRegistry.tableText (r : AnnotationRegistry) (annotations : List Annotation) :
    Except Failure String := do
  let known ← r.replayable annotations
  let completed ← known.mapM r.complete
  return (Json.array (completed.map (·.toJson Json.ofDouble))).render

namespace PropertyRow

def ofProperty (registry : AnnotationRegistry) (entity : String) (p : Property) :
    Except Failure PropertyRow := do
  let annotationText ← registry.tableText p.annotations
  return {
    name := p.name
    fullName := p.fullName entity
    mappedName := p.mappedName
    loadNames := p.loadNames
    typeSignature := p.type.signature
    accessorClass := GeneratedName.accessor entity p.name
    flags := p.flags
    annotationText }

def fields (row : PropertyRow) : List (String × List Token) :=
  [("name", [.quoted row.name]),
   ("full_name", [.quoted row.fullName]),
   ("mapped_name", [.quoted row.mappedName]),
   ("load_names",
    [.sign '&', .group .bracket (Token.separated (row.loadNames.map Token.quoted))]),
   ("type_signature", [.quoted row.typeSignature]),
   ("accessor_class", [.quoted row.accessorClass]),
   ("is_array", [.bool row.flags.array]),
   ("is_map", [.bool row.flags.map]),
   ("is_set", [.bool row.flags.set]),
   ("is_collection", [.bool row.flags.collection]),
   ("is_final", [.bool row.flags.constant]),
   ("is_transient", [.bool row.flags.transient]),
   ("is_reference", [.bool row.flags.reference]),
   ("is_id", [.bool row.flags.id]),
   ("is_version", [.bool row.flags.version]),
   ("annotations_json", [.quoted row.annotationText])]

end PropertyRow

namespace EntityTable

def ofEntity (registry : AnnotationRegistry) (config : MappingConfig) (e : Entity) :
    Except Failure EntityTable := do
  let properties ← e.properties.mapM (PropertyRow.ofProperty registry e.name)
  let annotationText ← registry.tableText e.annotations
  return {
    name := e.name
    simpleName := e.simpleName
    collectionName := e.collectionName config
    discriminator := e.discriminator config
    discriminatorKey := e.discriminatorKey config
    useDiscriminator := e.policy.useDiscriminator
    isAbstract := e.isAbstract
    isInterface := e.isInterface
    isEmbedded := e.policy.embedded
    annotationText
    properties }

def fields (t : EntityTable) : List (String × List Token) :=
  [("name", [.quoted t.name]),
   ("simple_name", [.quoted t.simpleName]),
   ("collection_name", [.quoted t.collectionName]),
   ("discriminator", [.quoted t.discriminator]),
   ("discriminator_key", [.quoted t.discriminatorKey]),
   ("use_discriminator", [.bool t.useDiscriminator]),
   ("is_abstract", [.bool t.isAbstract]),
   ("is_interface", [.bool t.isInterface]),
   ("is_embedded", [.bool t.isEmbedded]),
   ("annotations_json", [.quoted t.annotationText]),
   ("properties", [.word "PROPERTIES"])]

def rowType : String := "StaticPropertyModel"

def tableType : String := "StaticEntityModel"

def valueTokens (path : ModulePath) (type : String) (fields : List (String × List Token)) :
    List Token :=
  path.member type ++
    [.group .brace (fields.flatMap fun (key, value) =>
      [Token.word key, Token.sign ':'] ++ value ++ [Token.sign ','])]

def constantTokens (name : String) (type value : List Token) : List Token :=
  Token.words ["pub", "const", name] ++ [.sign ':'] ++ type ++ [.sign '='] ++ value ++ [.sign ';']

def tokens (path : ModulePath) (t : EntityTable) : List Token :=
  let title := " Model table for `" ++ t.name ++ "`."
  let rows := t.properties.flatMap fun row =>
    valueTokens path rowType row.fields ++ [Token.sign ',']
  [.sign '#', .sign '!', .group .bracket [.word "doc", .sign '=', .quoted title]] ++
    constantTokens "PROPERTIES" [.sign '&', .group .bracket (path.member rowType)]
      [.sign '&', .group .bracket rows] ++
    constantTokens "MODEL" (path.member tableType) (valueTokens path tableType t.fields)

end EntityTable

structure EntitySource where
  entity : String
  fileStem : String
  code : String

namespace EntitySource

/-- Where the types of tables are found unless another path is given. -/
def defaultPath : String := "::critter::core::model"

/-- The module of an entity; the types of tables are found under a path. A path that is well formed
but does not reach them is refused after the table has been made. -/
def ofEntity (registry : AnnotationRegistry) (config : MappingConfig) (path : String) (e : Entity) :
    Except GenerationError EntitySource :=
  match ModulePath.read? path with
  | none => .error (.malformedSource e.name)
  | some path => do
    let table ← (EntityTable.ofEntity registry config e).mapError .failure
    if !path.reaches EntityTable.tableType then throw (.malformedSource e.name)
    return {
      entity := e.name
      fileStem := GeneratedName.fileStem e.name
      code := Token.render (table.tokens path) }

/-- The file of the module below an output directory. -/
def relativePath (s : EntitySource) : String :=
  ClassRecord.pathOf (Qualified.packageName s.entity) (s.fileStem ++ ".rs")

def toJson (s : EntitySource) : Json :=
  .object [("entity", .text s.entity), ("module", .text s.fileStem), ("path", .text s.relativePath),
    ("code", .text s.code)]

end EntitySource

end EntityForge
