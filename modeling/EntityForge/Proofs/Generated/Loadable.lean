import EntityForge.Proofs.Generated.Completion
import EntityForge.Proofs.Generated.Declared

/-!
All classes of a pass load. The classes around the entity extend the class of all objects, which is
left to the outside, unless the entity itself is given its name; the class of the entity extends
whatever it was declared to extend. So what remains to be asked is that this superclass serves: it
is left to the outside, or it loads, and its own superclasses do not lead back to the entity.
-/

namespace EntityForge

/-- The superclass of a class, which is the class of all objects if it declares none. -/
def ClassMeta.superclass (c : ClassMeta) : String := c.superName.getD ClassName.object

/-- The superclasses of a name lead to another, through the classes that are registered. -/
inductive ClassRegistry.LeadsTo (records : Keyed ClassRecord) (top : String) : String → Prop where
  | here : LeadsTo records top top
  | up {name superName : String} {b : ClassBody} (hbody : definition records name = .ok b)
      (hsuper : b.superName = some superName) (hrest : LeadsTo records top superName) :
      LeadsTo records top name

/-- The superclass of a class serves a pass over it from one registry to another. Either it loads
before the pass, if it is registered then, and its superclasses do not lead to the class; or it loads
after the pass, if it is registered then. -/
inductive Generator.Serves (c : ClassMeta) (r r' : ClassRegistry) : Prop where
  | before (hloads : r.contains c.superclass = true →
      ∃ parent, (r.load c.superclass).1 = .ok parent)
      (haway : ¬ ClassRegistry.LeadsTo r'.records c.name c.superclass)
  | after (hloads : r'.contains c.superclass = true →
      ∃ parent, (r'.load c.superclass).1 = .ok parent)

/-! Names. -/

namespace GeneratedName

/-- The reserved segment tells generated names from that of the class of all objects. -/
private theorem ne_object {name : String} (h : '_' ∈ name.toList) : name ≠ ClassName.object := by
  rintro rfl
  exact absurd h (by decide)

private theorem underscore_mem_package (entity : String) : '_' ∈ (package entity).toList := by
  unfold package
  split <;> simp [reservedSegment]

theorem accessor_ne_object (entity property : String) :
    accessor entity property ≠ ClassName.object := by
  apply ne_object
  simp [accessor, scope, underscore_mem_package]

theorem propertyModel_ne_object (entity property : String) :
    propertyModel entity property ≠ ClassName.object := by
  apply ne_object
  simp [propertyModel, scope, underscore_mem_package]

theorem entityModel_ne_object (entity : String) : entityModel entity ≠ ClassName.object := by
  apply ne_object
  simp [entityModel, underscore_mem_package]

end GeneratedName

namespace Generator

variable {g : Generator} {r r' : ClassRegistry} {c : ClassMeta} {generated : GeneratedEntity}
  {bodies : List ClassBody} {body : ClassBody}

/-- The names of the classes of a pass, in the order of their records. -/
theorem plan_classNames {annotations : AnnotationRegistry}
    (h : g.plan annotations c = .ok generated) :
    generated.classNames = c.name :: generated.accessorClasses ++
      generated.propertyModelClasses ++ [generated.entityModelClass] := by
  obtain ⟨e, _, h⟩ := Checked.bind_eq_ok.mp h
  obtain ⟨entityRecord, hentity, h⟩ := Checked.bind_eq_ok.mp h
  obtain ⟨accessors, _, h⟩ := Checked.bind_eq_ok.mp h
  obtain ⟨propertyModels, _, h⟩ := Checked.bind_eq_ok.mp h
  obtain ⟨entityModel, _, h⟩ := Checked.bind_eq_ok.mp h
  cases h
  have hname : entityRecord.name = c.name :=
    (entityClass_encodes hentity).name.trans g.mode.entityBody_name
  simp [GeneratedEntity.classNames, hname]

/-- Of the classes that a pass made, only that of the entity can be the class of all objects. -/
theorem Installs.named_object (h : g.Installs r r' c generated bodies body) {b : ClassBody}
    (hb : b ∈ g.mode.bodies c generated.entity bodies body) (hname : b.name = ClassName.object) :
    c.name = ClassName.object := by
  simp only [GenerationMode.bodies, List.mem_append, List.mem_cons, List.mem_map,
    List.not_mem_nil, or_false] at hb
  rcases hb with (((rfl | ⟨p, _, rfl⟩) | hmodel) | rfl)
  · rw [← hname, GenerationMode.entityBody_name]
  · rw [Backend.accessorBody_name] at hname
    exact absurd hname (GeneratedName.accessor_ne_object _ _)
  · obtain ⟨p, _, hbody⟩ := Checked.forall₂_mem_right h.makes.models hmodel
    obtain ⟨_, _, _, _, _, _, _, _, rfl⟩ := Property.modelBody_ok hbody
    exact absurd hname (GeneratedName.propertyModel_ne_object _ _)
  · obtain ⟨_, _, _, _, _, _, _, rfl⟩ := Entity.modelBody_ok h.makes.model
    exact absurd hname (GeneratedName.entityModel_ne_object _)

/-- After a pass, the class of all objects is left to the outside, or it is the entity's. -/
theorem Installs.object_registered (h : g.Installs r r' c generated bodies body)
    (hobject : r.contains ClassName.object = false)
    (hregistered : r'.contains ClassName.object = true) : c.name = ClassName.object := by
  obtain ⟨b, hb, hname⟩ := h.made hobject hregistered
  exact h.named_object hb hname

/-! Links. -/

section Links

variable (h : g.Installs r r' c generated bodies body) (hresolves : c.Resolves)
  (hcast : (Instruction.checkCast generated.entity.name).WellFormed)

include h hresolves hcast

theorem Installs.alone {b : ClassBody} (hb : b ∈ g.mode.bodies c generated.entity bodies body)
    (hname : b.name ≠ c.name) : b.StandsAlone := by
  have hmembers : ∀ p ∈ generated.entity.properties,
      (⟨generated.entity.name, p⟩ : AccessorShape).MembersResolve :=
    fun p hp => (h.describes.found p hp).membersResolve hresolves _
  rcases h.standsAlone hcast hmembers hb with rfl | halone
  · exact absurd g.mode.entityBody_name hname
  · exact halone

variable (hobject : r.contains ClassName.object = false)

include hobject

/-- A name that is new after a pass links, if it does not lead to the entity. -/
theorem Installs.links_new {name : String} (hnew : r.contains name = false)
    (hregistered : r'.contains name = true)
    (haway : ¬ ClassRegistry.LeadsTo r'.records c.name name) : ∃ loaded, r'.Links name loaded := by
  obtain ⟨b, hb, rfl⟩ := h.made hnew hregistered
  have hname : b.name ≠ c.name := fun heq => haway (heq ▸ .here)
  have halone := h.alone hresolves hcast hb hname
  apply halone.links (h.stores b hb)
  intro hfound
  have hentity := h.object_registered hobject hfound
  have hdefined := (h.stores b hb).definition halone.wellFormed
  exact absurd (.up hdefined halone.superName (hentity ▸ .here)) haway

/-- A name that linked before a pass does so after it, if it does not lead to the entity. -/
theorem Installs.links_kept {name : String} {loaded : LoadedClass} (hlinks : r.Links name loaded)
    (haway : ¬ ClassRegistry.LeadsTo r'.records c.name name) :
    ∃ loaded', r'.Links name loaded' := by
  obtain ⟨height, hderives⟩ := hlinks
  -- The names of the chain keep their records, so only its end can change.
  induction hderives with
  | cached hcached => exact ⟨_, 0, .cached (h.loaded ▸ hcached)⟩
  | @root name b loaded _ hbody hroot hlink =>
    have hbody' := ClassRegistry.definition_keeps h.known hbody
    obtain ⟨own, hown, _⟩ := Checked.bind_eq_ok.mp hlink
    apply ClassRegistry.links_over hbody' ⟨own, hown⟩
    -- What was left to the outside before may be a class of the pass now.
    intro s hs
    obtain ⟨hsuper, hregistered⟩ := Option.filter_eq_some_iff.mp hs
    have hnew : r.contains s = false := by
      rw [hsuper, Option.filter_some] at hroot
      cases hknown : r.contains s with
      | false => rfl
      | true =>
        have hknown : r.records.contains s = true := hknown
        rw [if_pos hknown] at hroot
        cases hroot
    exact h.links_new hresolves hcast hobject hnew hregistered
      fun hleads => haway (.up hbody' hsuper hleads)
  | @child height name superName b parent loaded _ hbody hsuper _ hlink ih =>
    have hbody' := ClassRegistry.definition_keeps h.known hbody
    obtain ⟨own, hown, _⟩ := Checked.bind_eq_ok.mp hlink
    apply ClassRegistry.links_over hbody' ⟨own, hown⟩
    intro s hs
    have hdeclared := (Option.filter_eq_some_iff.mp hs).1
    cases hdeclared.symm.trans (Option.filter_eq_some_iff.mp hsuper).1
    exact ih fun hleads => haway (.up hbody' hdeclared hleads)

theorem Installs.links_superclass (hserves : Serves c r r')
    (hregistered : r'.contains c.superclass = true) : ∃ parent, r'.Links c.superclass parent := by
  cases hserves with
  | after hloads =>
    obtain ⟨parent, hparent⟩ := hloads hregistered
    exact ⟨parent, ClassRegistry.load_ok_iff.mp hparent⟩
  | before hloads haway =>
    cases hknown : r.contains c.superclass with
    | false => exact h.links_new hresolves hcast hobject hknown hregistered haway
    | true =>
      obtain ⟨parent, hparent⟩ := hloads hknown
      exact h.links_kept hresolves hcast hobject (ClassRegistry.load_ok_iff.mp hparent) haway

/-- The class of the entity links behind a superclass that serves the pass. -/
theorem Installs.links_entity (hserves : Serves c r r') : ∃ entity, r'.Links c.name entity := by
  have hstored := h.stores (g.mode.entityBody c generated.entity) (by simp [GenerationMode.bodies])
  have hwell := g.mode.entityBody_wellFormed hresolves h.describes.denotable
  have hbody := hstored.definition hwell
  rw [GenerationMode.entityBody_name] at hbody
  apply ClassRegistry.links_over hbody
  · rw [GenerationMode.ownSlots_entityBody]
    exact ClassMeta.ownSlots_compiled hresolves
  · intro s hs
    obtain ⟨hsuper, hregistered⟩ := Option.filter_eq_some_iff.mp hs
    rw [GenerationMode.entityBody_superName] at hsuper
    cases hsuper
    exact h.links_superclass hresolves hcast hobject hserves hregistered

/-- All classes of a pass link, that of the entity first: the others extend it where it is the class
of all objects. -/
theorem Installs.links_bodies (hserves : Serves c r r') {b : ClassBody}
    (hb : b ∈ g.mode.bodies c generated.entity bodies body) :
    ∃ loaded, r'.Links b.name loaded := by
  obtain ⟨entity, hentity⟩ := h.links_entity hresolves hcast hobject hserves
  by_cases hname : b.name = c.name
  · exact ⟨entity, hname ▸ hentity⟩
  · apply (h.alone hresolves hcast hb hname).links (h.stores b hb)
    intro hregistered
    exact ⟨entity, h.object_registered hobject hregistered ▸ hentity⟩

end Links

/-- **Generated classes load.** Let the descriptors of a class resolve and the initializers of its
instance fields fit their types, let the class of all objects be left to the outside, and let the
superclass serve. If a pass over the class succeeds in any mode, then the class of the entity, the
accessors, the models of the properties and the model of the entity all load, then and after any
other loads, and what is loaded is what the pass has written. -/
theorem generated_load {g : Generator} {r r' : ClassRegistry} {c : ClassMeta}
    {generated : GeneratedEntity} (hreach : r.Reachable)
    (hdigests : ClassRegistry.DigestsSeparate r.records generated.records)
    (h : g.generate r c = .ok (generated, r')) (hname : c.name.toList.head? ≠ some '[')
    (hresolves : c.Resolves) (hobject : r.contains ClassName.object = false)
    (hserves : Serves c r r') :
    generated.classNames = c.name :: generated.accessorClasses ++
        generated.propertyModelClasses ++ [generated.entityModelClass] ∧
      ∀ r'', r'.Later r'' → ∀ record ∈ generated.records, ∃ loaded,
        (r''.load record.name).1 = .ok loaded ∧ loaded.name = record.name ∧
          loaded.body.encode = .ok record.bytes ∧
          ClassBody.decode record.bytes = .ok loaded.body := by
  obtain ⟨hplan, _⟩ := generate_ok_iff.mp h
  refine ⟨plan_classNames hplan, ?_⟩
  obtain ⟨bodies, body, hinstalls⟩ := generate_installs hreach hdigests h
  have hcast : (Instruction.checkCast generated.entity.name).WellFormed := by
    intro harray
    rw [hinstalls.describes.name, isArrayTarget, decide_eq_true_eq] at harray
    exact absurd harray hname
  intro r'' hlater record hrecord
  obtain ⟨b, hb, hencodes⟩ := Checked.forall₂_mem_left hinstalls.makes.records hrecord
  obtain ⟨loaded, hlinks⟩ := hinstalls.links_bodies hresolves hcast hobject hserves hb
  have hstored := hinstalls.stores b hb
  have hfronts := hstored.fronts hinstalls.sound hlinks
  have hwell := hstored.wellFormed (hlinks.defines hinstalls.sound).1
  rw [hencodes.name]
  refine ⟨loaded, ClassRegistry.load_ok_iff.mpr (hlater.links_iff.mpr hlinks), hfronts.name, ?_, ?_⟩
  · rw [hfronts.body]
    exact hencodes.bytes
  · rw [hfronts.body]
    exact (ClassBody.decode_of_encode hencodes.bytes).1 hwell

/-- All classes of a pass over a class of one field load, its superclass left to the outside. -/
theorem generated_load_counter :
    ∃ generated r',
      (Generator.mk {} (.selfContained .direct)).generate {}
        (Counter.classMeta "app.Counter" none) = .ok (generated, r') ∧
      ∀ record ∈ generated.records, ∃ loaded, (r'.load record.name).1 = .ok loaded ∧
        loaded.body.encode = .ok record.bytes := by
  have hchecks : Counter.Checks (.selfContained .direct) "app.Counter" none := by decide +kernel
  obtain ⟨generated, r', hgenerate, _, hdigests, hobject, _⟩ := Counter.generates hchecks
  have hresolves : (Counter.classMeta "app.Counter" none).Resolves := by
    refine ⟨?_, nofun, ?_⟩
    · intro f hf
      exact List.mem_singleton.mp hf ▸ ⟨_, Signature.parseType_int⟩
    · intro f hf _ k hconstant
      rw [List.mem_singleton.mp hf] at hconstant
      cases hconstant
  have hserves : Serves (Counter.classMeta "app.Counter" none) {} r' :=
    .after fun hregistered => by cases hobject.symm.trans hregistered
  obtain ⟨_, hloads⟩ := generated_load (.new .builtin) hdigests hgenerate (by decide) hresolves rfl
    hserves
  refine ⟨generated, r', hgenerate, fun record hrecord => ?_⟩
  obtain ⟨loaded, hloaded, _, hbytes, _⟩ := hloads r' (.refl r') record hrecord
  exact ⟨loaded, hloaded, hbytes⟩

end Generator

end EntityForge
