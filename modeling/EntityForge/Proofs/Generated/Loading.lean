import EntityForge.Proofs.Generated.AccessorClass
import EntityForge.Proofs.Generated.Bodies
import EntityForge.Proofs.Generated.EntityClass
import EntityForge.Proofs.Generated.Replay

/-!
Loading the classes of a pass. What a pass makes around the entity stands alone: it is well-formed
and extends the class of all objects only, so it loads as soon as it is registered. The class of the
entity is written as it was declared, and only that one may fail to load.
-/

namespace EntityForge

/-- A method that a class declares is one of the entity's class in every mode. -/
theorem GenerationMode.declared_found (mode : GenerationMode) {c : ClassMeta} {e : Entity}
    {w : MethodRef} (h : c.Declares w) :
    ∃ found, (mode.entityBody c e).method? w.name w.descriptor = some found := by
  obtain ⟨hname, declared, hmem, hdeclaredName, hdescriptor⟩ := h
  have hcompiled : MethodDef.ofCode declared.name declared.descriptor declared.flags
      (c.methodCode declared) ∈ c.compiled.methods := by
    refine List.mem_map.mpr ⟨declared, List.mem_filter.mpr ⟨hmem, ?_⟩, rfl⟩
    rw [decide_eq_true_eq, hdeclaredName]
    exact hname
  have hmethod : MethodDef.ofCode declared.name declared.descriptor declared.flags
      (c.methodCode declared) ∈ (mode.entityBody c e).methods := by
    unfold entityBody
    split
    · exact List.mem_append_left _ hcompiled
    · exact hcompiled
  cases hfind : (mode.entityBody c e).method? w.name w.descriptor with
  | some found => exact ⟨found, rfl⟩
  | none =>
    have hnone := List.find?_eq_none.mp hfind _ hmethod
    simp [MethodDef.ofCode, hdeclaredName, hdescriptor] at hnone

/-- The methods of a well-formed class have descriptors that resolve. -/
theorem ClassBody.WellFormed.descriptor {b : ClassBody} (h : b.WellFormed)
    {name descriptor : String} {m : MethodDef} (hm : b.method? name descriptor = some m) :
    IsMethodDescriptor descriptor := by
  have hfound := List.find?_some hm
  rw [Bool.and_eq_true, decide_eq_true_eq, decide_eq_true_eq] at hfound
  obtain ⟨type, hparse, _⟩ := (h.methods m (List.mem_of_find?_eq_some hm)).fits
  exact hfound.2 ▸ ⟨type, hparse⟩

/-- A well-formed class of no initial values that extends the class of all objects. -/
structure ClassBody.StandsAlone (b : ClassBody) : Prop where
  wellFormed : b.WellFormed
  initial : ∀ f ∈ b.fields, f.initial = none
  superName : b.superName = some ClassName.object

/-- A stored class that stands alone links, unless the class of all objects is registered and does
not. -/
theorem ClassBody.StandsAlone.links {r : ClassRegistry} {b : ClassBody} (h : b.StandsAlone)
    (hstored : ClassRegistry.Stores r.records b)
    (hobject : r.contains ClassName.object = true → ∃ object, r.Links ClassName.object object) :
    ∃ c, r.Links b.name c := by
  have hown := ClassRegistry.ownSlots_ok h.wellFormed.fields h.initial
  apply ClassRegistry.links_over (hstored.definition h.wellFormed) hown
  intro s hs
  obtain ⟨hsuper, hregistered⟩ := Option.filter_eq_some_iff.mp hs
  cases h.superName.symm.trans hsuper
  exact hobject hregistered

theorem Backend.accessorBody_standsAlone (backend : Backend) {s : AccessorShape}
    (htype : s.property.type.Denotable) (hcast : s.CastsEntity) (hmembers : s.MembersResolve) :
    (backend.accessorBody s).StandsAlone where
  wellFormed := backend.accessorBody_wellFormed htype hcast hmembers
  initial := backend.accessorBody_initial
  superName := backend.accessorBody_superName

theorem Property.modelBody_standsAlone {annotations : AnnotationRegistry} {entity : String}
    {p : Property} {b : ClassBody} (h : p.modelBody annotations entity = .ok b) :
    b.StandsAlone := by
  obtain ⟨_, replay, loadNames, type, _, hreplay, hloadNames, htype, rfl⟩ := modelBody_ok h
  refine ⟨modelBodyOf_wellFormed (Replay.code_straight hreplay)
    (Code.textList_pushes hloadNames).straight (Code.typeData_pushes htype).straight, ?_, rfl⟩
  intro f hf
  change f ∈ modelFields at hf
  simp only [modelFields, List.mem_cons, List.not_mem_nil, or_false] at hf
  rcases hf with rfl | rfl <;> rfl

theorem Entity.modelBody_standsAlone {annotations : AnnotationRegistry} {e : Entity}
    {b : ClassBody} (h : e.modelBody annotations = .ok b) : b.StandsAlone := by
  obtain ⟨_, replay, type, _, _, hreplay, htype, rfl⟩ := modelBody_ok h
  refine ⟨modelBodyOf_wellFormed (Replay.code_straight hreplay)
    (Code.typeData_pushes htype).straight, ?_, rfl⟩
  intro f hf
  change f ∈ modelFields at hf
  simp only [modelFields, List.mem_cons, List.not_mem_nil, or_false] at hf
  rcases hf with rfl | rfl | rfl | rfl | rfl | rfl <;> rfl

namespace Generator

variable {g : Generator} {r r' : ClassRegistry} {c : ClassMeta} {generated : GeneratedEntity}
  {bodies : List ClassBody} {body : ClassBody} {entity : LoadedClass}

theorem outside_object (hobject : r'.contains ClassName.object = false) :
    (some ClassName.object).filter r'.records.contains = none := by
  have hunregistered : r'.records.contains ClassName.object = false := hobject
  rw [Option.filter_some, hunregistered]
  rfl

/-- A class that a pass made links, if it stands alone. -/
theorem Installs.links_made (h : g.Installs r r' c generated bodies body)
    (hobject : r'.contains ClassName.object = false) {b : ClassBody}
    (hb : b ∈ g.mode.bodies c generated.entity bodies body) (halone : b.StandsAlone) :
    ∃ loaded, r'.Links b.name loaded ∧ loaded.Fronts b := by
  obtain ⟨loaded, hlinks⟩ := halone.links (h.stores b hb) fun hregistered => by
    cases hobject.symm.trans hregistered
  exact ⟨loaded, hlinks, (h.stores b hb).fronts h.sound hlinks⟩

/-- The class of the entity as it is loaded. -/
theorem Installs.fronts_entity (h : g.Installs r r' c generated bodies body)
    (hentity : r'.Links c.name entity) :
    entity.Fronts (g.mode.entityBody c generated.entity) ∧
      (g.mode.entityBody c generated.entity).WellFormed := by
  have hstored := h.stores (g.mode.entityBody c generated.entity) (by simp [GenerationMode.bodies])
  have hname := g.mode.entityBody_name (c := c) (e := generated.entity)
  rw [← hname] at hentity
  exact ⟨hstored.fronts h.sound hentity, hstored.wellFormed (hentity.defines h.sound).1⟩

/-- The class of the entity offers every method that it declares. -/
private theorem offers_declared (hfronts : entity.Fronts (g.mode.entityBody c generated.entity))
    (hwell : (g.mode.entityBody c generated.entity).WellFormed) {w : MethodRef}
    (hw : c.Declares w) : entity.Offers w := by
  obtain ⟨found, hfound⟩ := g.mode.declared_found (e := generated.entity) hw
  exact ⟨⟨found, hfronts.findMethod? hfound⟩, hwell.descriptor hfound⟩

/-- The name of a field property finds a slot of the entity. -/
theorem slot_found (hfronts : entity.Fronts (g.mode.entityBody c generated.entity))
    {p : Property} (hfound : p.FoundIn c) (haccess : p.access = .field) :
    ∃ slot field, entity.slot? p.name = some slot ∧ entity.slots[slot]? = some field := by
  cases hfound with
  | method _ _ _ _ hmethod => cases haccess.symm.trans hmethod
  | field f hmember hinstance hname _ =>
    obtain ⟨inherited, own, hown, hslots⟩ := hfronts.slots
    rw [GenerationMode.ownSlots_entityBody] at hown
    obtain ⟨front, hfront, hfrontName, _⟩ := ClassMeta.slot_of_field hown hmember hinstance
    have hmem : front ∈ entity.slots := hslots ▸ List.mem_append_right _ hfront
    obtain ⟨slot, hslot⟩ := LoadedClass.slot?_isSome hmem
    obtain ⟨field, hfield, _⟩ := LoadedClass.slot?_some hslot
    rw [hfrontName, ← hname] at hslot
    exact ⟨slot, field, hslot, hfield⟩

/-- The class of the entity offers the methods behind a property. -/
theorem offers_members (hfronts : entity.Fronts (g.mode.entityBody c generated.entity))
    (hwell : (g.mode.entityBody c generated.entity).WellFormed) {p : Property}
    (hfound : p.FoundIn c) {getter : MethodRef} {setter : Option MethodRef}
    (haccess : p.access = .method getter setter) :
    entity.Offers getter ∧ ∀ w ∈ setter, entity.Offers w := by
  cases hfound with
  | field _ _ _ _ hfield => cases hfield.symm.trans haccess
  | method getter' setter' hgetter hsetter hmethod =>
    cases hmethod.symm.trans haccess
    exact ⟨offers_declared hfronts hwell hgetter,
      fun w hw => offers_declared hfronts hwell (hsetter w hw)⟩

/-- The members of a property have descriptors that resolve, once the class of the entity loads. -/
theorem Installs.membersResolve (h : g.Installs r r' c generated bodies body)
    (hentity : r'.Links c.name entity) {p : Property} (hp : p ∈ generated.entity.properties) :
    (⟨generated.entity.name, p⟩ : AccessorShape).MembersResolve := by
  obtain ⟨hfronts, hwell⟩ := h.fronts_entity hentity
  intro getter setter haccess
  obtain ⟨hgetter, hsetter⟩ := offers_members hfronts hwell (h.describes.found p hp) haccess
  exact ⟨hgetter.2, fun w hw => (hsetter w hw).2⟩

/-- The class of an accessor is one of those that a pass made. -/
theorem accessorBody_mem (g : Generator) (c : ClassMeta) (e : Entity) (bodies : List ClassBody)
    (body : ClassBody) {p : Property} (hp : p ∈ e.properties) :
    g.mode.backend.accessorBody ⟨e.name, p⟩ ∈ g.mode.bodies c e bodies body := by
  simp only [GenerationMode.bodies, List.mem_append, List.mem_cons, List.mem_map]
  exact .inl (.inl (.inr ⟨p, hp, rfl⟩))

/-- The class of the accessor of a property as it is loaded. -/
theorem Installs.loaded_accessor (h : g.Installs r r' c generated bodies body) {p : Property}
    (hp : p ∈ generated.entity.properties) {accessor : LoadedClass}
    (hlinks : r'.Links (GeneratedName.accessor generated.entity.name p.name) accessor) :
    (⟨generated.entity.name, p⟩ : AccessorShape).Loaded g.mode.backend accessor := by
  have hname := Backend.accessorBody_name g.mode.backend ⟨generated.entity.name, p⟩
  exact (h.stores _ (accessorBody_mem g c generated.entity bodies body hp)).fronts h.sound
    (hname ▸ hlinks)

/-- The class of the accessor of a property links. -/
theorem Installs.links_accessor (h : g.Installs r r' c generated bodies body)
    (hobject : r'.contains ClassName.object = false) {p : Property}
    (hp : p ∈ generated.entity.properties)
    (hcast : (⟨generated.entity.name, p⟩ : AccessorShape).CastsEntity)
    (hmembers : (⟨generated.entity.name, p⟩ : AccessorShape).MembersResolve) :
    ∃ accessor, r'.Links (GeneratedName.accessor generated.entity.name p.name) accessor ∧
      (⟨generated.entity.name, p⟩ : AccessorShape).Loaded g.mode.backend accessor := by
  obtain ⟨accessor, hlinks, hloaded⟩ := h.links_made hobject
    (accessorBody_mem g c generated.entity bodies body hp)
    (g.mode.backend.accessorBody_standsAlone (h.describes.denotable p hp) hcast hmembers)
  rw [Backend.accessorBody_name] at hlinks
  exact ⟨accessor, hlinks, hloaded⟩

/-- Of the classes that a pass made, all but the class of the entity stand alone. -/
theorem Installs.standsAlone (h : g.Installs r r' c generated bodies body)
    (hcast : (Instruction.checkCast generated.entity.name).WellFormed)
    (hmembers : ∀ p ∈ generated.entity.properties,
      (⟨generated.entity.name, p⟩ : AccessorShape).MembersResolve) {b : ClassBody}
    (hb : b ∈ g.mode.bodies c generated.entity bodies body) :
    b = g.mode.entityBody c generated.entity ∨ b.StandsAlone := by
  simp only [GenerationMode.bodies, List.mem_append, List.mem_cons, List.mem_map,
    List.not_mem_nil, or_false] at hb
  rcases hb with (((rfl | ⟨p, hp, rfl⟩) | hmodel) | rfl)
  · exact .inl rfl
  · exact .inr (g.mode.backend.accessorBody_standsAlone (h.describes.denotable p hp) hcast
      (hmembers p hp))
  · obtain ⟨p, _, hbody⟩ := Checked.forall₂_mem_right h.makes.models hmodel
    exact .inr (Property.modelBody_standsAlone hbody)
  · exact .inr (Entity.modelBody_standsAlone h.makes.model)

/-- Where only the classes of the pass are registered, all classes load as soon as that of the entity
does. -/
theorem Installs.allLoad (h : g.Installs r r' c generated bodies body)
    (hnew : ∀ name, r.records.get? name = none) (hobject : r'.contains ClassName.object = false)
    (hcast : (Instruction.checkCast generated.entity.name).WellFormed)
    (hentity : r'.Links c.name entity) : r'.AllLoad r'.names := by
  intro name hname
  have hcontains : r'.contains name = true := Keyed.mem_keys_iff.mp hname
  have hnew : r.contains name = false := by
    simp [ClassRegistry.contains, Keyed.contains, hnew]
  obtain ⟨b, hb, rfl⟩ := h.made hnew hcontains
  rcases h.standsAlone hcast (fun p hp => h.membersResolve hentity hp) hb with rfl | halone
  · rw [GenerationMode.entityBody_name]
    exact ⟨entity, ClassRegistry.load_ok_iff.mpr hentity⟩
  · obtain ⟨loaded, hlinks, _⟩ := h.links_made hobject hb halone
    exact ⟨loaded, ClassRegistry.load_ok_iff.mpr hlinks⟩

end Generator

end EntityForge
