import EntityForge.Generated.Names
import EntityForge.Proofs.Registry.Paths

/-!
Names of generated classes. The reserved segment stands in the name of every generated class and of
no entity. What is in front of it is the package of the entity, and what is behind it tells the
entity, the property and the kind of the class. So no two classes share a name, and no two share a
file.
-/

namespace EntityForge

open Qualified (enclosing simpleName packageName split)

/-- A name of an entity from which generated names can be made. -/
structure EntityName (name : String) : Prop where
  plain : PathName name
  unreserved : GeneratedName.reservedSegment ∉ split '.' name

theorem EntityName.unreserved_enclosing {name : String} (h : EntityName name) :
    GeneratedName.reservedSegment ∉ enclosing name := by
  intro hmem
  apply h.unreserved
  rw [Qualified.split_eq_enclosing]
  exact List.mem_append_left _ hmem

/-- A name of a property that stands inside of one segment of a name. -/
structure PropertyName (name : String) : Prop where
  undotted : '.' ∉ name.toList
  unslashed : '/' ∉ name.toList

inductive ClassRole where
  | entity
  | entityModel
  | accessor (property : String)
  | propertyModel (property : String)
deriving DecidableEq

def ClassRole.className (entity : String) : ClassRole → String
  | .entity => entity
  | .entityModel => GeneratedName.entityModel entity
  | .accessor p => GeneratedName.accessor entity p
  | .propertyModel p => GeneratedName.propertyModel entity p

/-- A role that stands for a property has a name of a property. -/
def ClassRole.Admissible : ClassRole → Prop
  | .entity | .entityModel => True
  | .accessor p | .propertyModel p => PropertyName p

namespace GeneratedName

variable {entity property : String}

theorem split_package (h : PathName entity) :
    split '.' (package entity) = enclosing entity ++ [reservedSegment] := by
  have hreserved : '.' ∉ reservedSegment.toList := by decide
  unfold package
  split
  · next hempty =>
    rw [h.packageName_eq_empty.mp hempty, Qualified.split_of_notMem hreserved, List.nil_append]
  · next hpackage =>
    have hne : enclosing entity ≠ [] := fun hnil => hpackage (h.packageName_eq_empty.mpr hnil)
    rw [Qualified.split_segment hreserved, Qualified.split_packageName hne]

theorem split_scope (h : PathName entity) :
    split '.' (scope entity) = enclosing entity ++ [reservedSegment, simpleName entity] := by
  rw [scope, Qualified.split_segment (Qualified.simpleName_undotted entity), split_package h,
    List.append_assoc]
  rfl

end GeneratedName

namespace ClassRole

variable {entity entity' : String} {role role' : ClassRole}

/-- The segments of the name behind the reserved one. -/
def inner (entity : String) : ClassRole → List String
  | .entity => []
  | .entityModel => [simpleName entity ++ "EntityModel"]
  | .accessor p => [simpleName entity, p ++ "Accessor"]
  | .propertyModel p => [simpleName entity, p ++ "Model"]

/-- The name of a generated class is divided at the reserved segment. -/
theorem split_className (h : PathName entity) (hrole : role.Admissible) (hne : role ≠ .entity) :
    split '.' (role.className entity) =
      enclosing entity ++ GeneratedName.reservedSegment :: role.inner entity := by
  cases role with
  | entity => exact absurd rfl hne
  | entityModel =>
    have hdot : '.' ∉ (simpleName entity ++ "EntityModel").toList := by
      simpa using Qualified.simpleName_undotted entity
    rw [className, GeneratedName.entityModel, String.append_assoc, Qualified.split_segment hdot,
      GeneratedName.split_package h, List.append_assoc]
    rfl
  | accessor p =>
    have hdot : '.' ∉ (p ++ "Accessor").toList := by simpa using hrole.undotted
    rw [className, GeneratedName.accessor, String.append_assoc, Qualified.split_segment hdot,
      GeneratedName.split_scope h, List.append_assoc]
    rfl
  | propertyModel p =>
    have hdot : '.' ∉ (p ++ "Model").toList := by simpa using hrole.undotted
    rw [className, GeneratedName.propertyModel, String.append_assoc, Qualified.split_segment hdot,
      GeneratedName.split_scope h, List.append_assoc]
    rfl

theorem inner_segments (h : PathName entity) (hrole : role.Admissible) :
    ∀ s ∈ role.inner entity, PathSegment s := by
  have hsimple := h.simpleName
  cases role with
  | entity => exact nofun
  | entityModel =>
    simpa [inner] using PathSegment.append hsimple.unslashed (t := "EntityModel") (by decide)
  | accessor p =>
    simpa [inner] using
      And.intro hsimple (PathSegment.append hrole.unslashed (t := "Accessor") (by decide))
  | propertyModel p =>
    simpa [inner] using
      And.intro hsimple (PathSegment.append hrole.unslashed (t := "Model") (by decide))

/-- Every class has a name that stands in a path. -/
theorem className_plain (h : PathName entity) (hrole : role.Admissible) :
    PathName (role.className entity) := by
  by_cases hentity : role = .entity
  · rw [hentity]
    exact h
  · intro s hs
    rw [split_className h hrole hentity] at hs
    rcases List.mem_append.mp hs with hs | hs
    · exact h.enclosing s hs
    rcases List.mem_cons.mp hs with rfl | hs
    · decide
    · exact inner_segments h hrole s hs

private theorem accessor_ne_model (p q : String) : p ++ "Accessor" ≠ q ++ "Model" := by
  intro heq
  have hlast := congrArg (fun s => s.toList.getLast?) heq
  simp at hlast

/-- What is behind the reserved segment tells the role and the last segment of the entity. -/
theorem inner_inj (hne : role ≠ .entity) (h : role.inner entity = role'.inner entity') :
    role = role' ∧ simpleName entity = simpleName entity' := by
  cases role with
  | entity => exact absurd rfl hne
  | entityModel => cases role' <;> simp_all [inner]
  | accessor p => cases role' <;> simp_all [inner, accessor_ne_model]
  | propertyModel p => cases role' <;> simp_all [inner, (accessor_ne_model _ _).symm]

/-- The reserved segment stands in the names of the generated classes, and only there. -/
theorem reserved_mem_iff (h : EntityName entity) (hrole : role.Admissible) :
    GeneratedName.reservedSegment ∈ split '.' (role.className entity) ↔ role ≠ .entity := by
  constructor
  · rintro hmem rfl
    exact h.unreserved hmem
  · intro hne
    rw [split_className h.plain hrole hne]
    simp

/-- A list is divided at the first place of an element in one way only. -/
private theorem append_cons_inj {α : Type} {x : α} {front back back' : List α} :
    ∀ {front' : List α}, x ∉ front → x ∉ front' →
      front ++ x :: back = front' ++ x :: back' → front = front' ∧ back = back' := by
  induction front with
  | nil =>
    intro front' _ hnot' heq
    cases front' with
    | nil => exact ⟨rfl, (List.cons.inj heq).2⟩
    | cons y rest =>
      have hhead : x = y := (List.cons.inj heq).1
      exact absurd (hhead ▸ List.mem_cons_self) hnot'
  | cons y rest ih =>
    intro front' hnot hnot' heq
    cases front' with
    | nil =>
      have hhead : y = x := (List.cons.inj heq).1
      exact absurd (hhead ▸ List.mem_cons_self) hnot
    | cons z rest' =>
      obtain ⟨rfl, htail⟩ := List.cons.inj heq
      obtain ⟨rfl, hback⟩ := ih (List.not_mem_of_not_mem_cons hnot)
        (List.not_mem_of_not_mem_cons hnot') htail
      exact ⟨rfl, hback⟩

theorem generated_inj (h : EntityName entity) (h' : EntityName entity') (hrole : role.Admissible)
    (hrole' : role'.Admissible) (hne : role ≠ .entity) (hne' : role' ≠ .entity)
    (heq : role.className entity = role'.className entity') : entity = entity' ∧ role = role' := by
  have hsegments := split_className h.plain hrole hne
  rw [heq, split_className h'.plain hrole' hne'] at hsegments
  obtain ⟨henclosing, hinner⟩ := append_cons_inj h'.unreserved_enclosing h.unreserved_enclosing
    hsegments
  obtain ⟨rfl, hsimple⟩ := inner_inj hne hinner.symm
  constructor
  · exact Qualified.eq_of_parts henclosing.symm hsimple
  · rfl

/-- Two classes of one name are the same class of the same entity. -/
theorem className_inj (h : EntityName entity) (h' : EntityName entity') (hrole : role.Admissible)
    (hrole' : role'.Admissible) :
    role.className entity = role'.className entity' ↔ entity = entity' ∧ role = role' := by
  constructor
  · intro heq
    have hreserved := reserved_mem_iff h hrole
    rw [heq, reserved_mem_iff h' hrole'] at hreserved
    by_cases hne : role = .entity
    · have hne' : role' = .entity := by simpa [hne] using hreserved
      subst hne hne'
      exact ⟨heq, rfl⟩
    · exact generated_inj h h' hrole hrole' hne (hreserved.mpr hne) heq
  · rintro ⟨rfl, rfl⟩
    rfl

/-- The name of an entity or of a class that is generated for one. -/
def Names (name : String) : Prop :=
  ∃ entity role, EntityName entity ∧ Admissible role ∧ name = role.className entity

theorem Names.plain {name : String} (h : Names name) : PathName name := by
  obtain ⟨entity, role, hentity, hrole, rfl⟩ := h
  exact className_plain hentity.plain hrole

/-- Entities and their generated classes have different names, records of different names have
different paths, and the files of a registry that holds such classes lie at different paths. -/
theorem classes_apart :
    (∀ entity entity' role role', EntityName entity → EntityName entity' → Admissible role →
      Admissible role' →
      (role.className entity = role'.className entity' ↔ entity = entity' ∧ role = role')) ∧
    (∀ r s : ClassRecord, Names r.name → Names s.name →
      (r.relativePath = s.relativePath ↔ r.name = s.name)) ∧
    ∀ registry : ClassRegistry, registry.Reachable →
      (∀ entry ∈ registry.records, Names entry.1) → (registry.files.map Prod.fst).Nodup := by
  refine ⟨?_, ?_, ?_⟩
  · intro entity entity' role role' h h' hrole hrole'
    exact className_inj h h' hrole hrole'
  · intro r s hr hs
    exact ClassRecord.relativePath_inj hr.plain hs.plain
  · intro registry hreachable hnames
    apply ClassRegistry.files_nodup hreachable.indexed
    intro entry hentry
    exact (hnames entry hentry).plain

theorem classes_apart_user :
    ClassRole.className "app.User" (.accessor "name") ≠
      ClassRole.className "app.User" (.propertyModel "name") ∧
    (ClassRecord.ofBytes "app.User" []).relativePath ≠
      (ClassRecord.ofBytes (GeneratedName.accessor "app.User" "name") []).relativePath ∧
    ∃ registry outcomes,
      ClassRegistry.registerAll { annotations := .empty } [ClassRecord.ofBytes "app.User" [],
        ClassRecord.ofBytes (GeneratedName.accessor "app.User" "name") []] =
          .ok (outcomes, registry) ∧
      (registry.files.map Prod.fst).Nodup := by
  have hentity : EntityName "app.User" := ⟨by decide, by decide⟩
  have hproperty : PropertyName "name" := ⟨by decide, by decide⟩
  obtain ⟨hnames, hpaths, hfiles⟩ := classes_apart
  have huser : Names "app.User" := ⟨"app.User", .entity, hentity, trivial, rfl⟩
  have haccessor : Names (GeneratedName.accessor "app.User" "name") :=
    ⟨"app.User", .accessor "name", hentity, hproperty, rfl⟩
  have hregister : ClassRegistry.registerAll { annotations := .empty }
      [ClassRecord.ofBytes "app.User" [],
        ClassRecord.ofBytes (GeneratedName.accessor "app.User" "name") []] = .ok (_, _) := rfl
  refine ⟨?_, ?_, _, _, hregister, ?_⟩
  · intro heq
    have hrole := ((hnames _ _ (.accessor "name") (.propertyModel "name") hentity hentity
      hproperty hproperty).mp heq).2
    cases hrole
  · intro heq
    have hsame := (hpaths _ _ huser haccessor).mp heq
    exact absurd hsame (by decide)
  · apply hfiles
    · exact .registerAll (.new .empty) hregister
    · intro entry hentry
      rcases List.mem_cons.mp hentry with rfl | hentry
      · exact huser
      · rw [List.mem_singleton.mp hentry]
        exact haccessor

end ClassRole

end EntityForge
