import EntityForge.Entity.Descriptor

/-!
Faults of an entity. Document names are owned by the first property that claims them; a claim by a
property of another name is a clash. There is at most one identity property, and identity properties
have their reserved document name.
-/

namespace EntityForge

namespace Property

def claims (p : Property) : List String := p.mappedName :: p.loadNames

end Property

namespace Entity

/-- One claim after the others: its owner is registered, and a clash is recorded. -/
def claim (state : Keyed String × FaultTree) (property mapped : String) :
    Keyed String × FaultTree :=
  match state.1.get? mapped with
  | none => (state.1.insert mapped property, state.2)
  | some first =>
    if first = property then state
    else (state.1, state.2.addAt property s!"mapped name '{mapped}' already used by '{first}'")

def clashes (properties : List Property) : FaultTree :=
  (properties.foldl (fun state p => p.claims.foldl (fun s m => claim s p.name m) state)
    (([], FaultTree.none) : Keyed String × FaultTree)).2

def faults (e : Entity) : FaultTree :=
  let ids := e.properties.filter (·.flags.id)
  let tree := clashes e.properties
  let tree :=
    if 1 < ids.length then
      let names := ", ".intercalate (ids.map (·.name))
      tree.add s!"more than one id property: {names}"
    else tree
  ids.foldl (fun tree p =>
    if p.mappedName ≠ idFieldName then
      tree.addAt p.name s!"id property must map to '{idFieldName}'"
    else tree) tree

/-- Whether an entity has no fault; otherwise all of them. -/
def validate (e : Entity) : Except FaultTree Unit := e.faults.toResult

end Entity

end EntityForge
