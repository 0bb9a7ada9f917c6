import EntityForge.Proofs.Generated.Completion
import EntityForge.Proofs.Generated.EntityModel

/-!
Parity of models. Once the class of an entity loads, so do all classes that a pass made around it,
and the model that they give answers every query; taken together, its answers are those of the model
that reads the description itself.
-/

namespace EntityForge

open Run

namespace Generator

variable {g : Generator} {r r' : ClassRegistry} {c : ClassMeta} {generated : GeneratedEntity}
  {bodies : List ClassBody} {body : ClassBody} {entity : LoadedClass}

/-- The classes behind the model of an entity link: its own model class, those of its properties, the
accessors, and the class of the entity itself where accessors bind its members. -/
structure Linked (g : Generator) (r' : ClassRegistry) (generated : GeneratedEntity) : Prop where
  model : ∃ loaded, r'.Links generated.entity.modelName loaded
  models : ∀ p ∈ generated.entity.properties,
    ∃ loaded, r'.Links (p.modelName generated.entity.name) loaded
  accessors : ∀ p ∈ generated.entity.properties,
    ∃ loaded, r'.Links (GeneratedName.accessor generated.entity.name p.name) loaded
  entity : g.mode.backend.needsAugmentation = false → generated.entity.properties ≠ [] →
    ∃ entity, r'.Links generated.entity.name entity

/-- The class of the model of a property: what it replays, and what it answers. -/
theorem Installs.model_made (h : g.Installs r r' c generated bodies body) {p : Property}
    (hp : p ∈ generated.entity.properties) :
    ∃ known replay loadNames type annotations,
      Replay.code generated.entity.name (p.modelName generated.entity.name) known = .ok replay ∧
      known.mapM r'.annotations.complete = .ok annotations ∧
      r'.annotations.replayed p.annotations = .ok annotations ∧
      Code.Pushes loadNames [.list (p.loadNames.map .text)] ∧ Code.Pushes type [.type p.type] ∧
      (p.modelBodyOf generated.entity.name replay loadNames type).StandsAlone ∧
      p.modelBodyOf generated.entity.name replay loadNames type ∈
        g.mode.bodies c generated.entity bodies body := by
  obtain ⟨b, hb, hbody⟩ := Checked.forall₂_mem_left h.makes.models hp
  have halone := Property.modelBody_standsAlone hbody
  obtain ⟨known, replay, loadNames, type, hknown, hreplay, hloadNames, htype, rfl⟩ :=
    Property.modelBody_ok hbody
  obtain ⟨annotations, hcompleted, hreplayed⟩ := AnnotationRegistry.replayable_ok hknown
  rw [← h.annotations] at hcompleted hreplayed
  refine ⟨known, replay, loadNames, type, annotations, hreplay, hcompleted, hreplayed,
    Code.textList_pushes hloadNames, Code.typeData_pushes htype, halone, ?_⟩
  simp only [GenerationMode.bodies, List.mem_append]
  exact .inl (.inr hb)

/-- If the class of the entity loads and that of all objects is left to the outside, the classes
behind the model link. -/
theorem Installs.linked (h : g.Installs r r' c generated bodies body)
    (hcast : (Instruction.checkCast generated.entity.name).WellFormed)
    (hentity : r'.Links c.name entity) (hobject : r'.contains ClassName.object = false) :
    g.Linked r' generated where
  model := by
    have halone := Entity.modelBody_standsAlone h.makes.model
    obtain ⟨loaded, hlinks, _⟩ := h.links_made hobject
      (List.mem_append_right _ (List.mem_singleton.mpr rfl)) halone
    obtain ⟨_, _, _, _, _, _, _, rfl⟩ := Entity.modelBody_ok h.makes.model
    exact ⟨loaded, hlinks⟩
  models p hp := by
    obtain ⟨_, _, _, _, _, _, _, _, _, _, halone, hb⟩ := h.model_made hp
    obtain ⟨loaded, hlinks, _⟩ := h.links_made hobject hb halone
    exact ⟨loaded, hlinks⟩
  accessors p hp := by
    obtain ⟨accessor, hlinks, _⟩ := h.links_accessor hobject hp hcast (h.membersResolve hentity hp)
    exact ⟨accessor, hlinks⟩
  entity _ _ := ⟨entity, h.describes.name ▸ hentity⟩

/-- Accessors of all properties are made. -/
theorem Installs.makes_accessor (h : g.Installs r r' c generated bodies body)
    (hlinked : g.Linked r' generated) {p : Property} (hp : p ∈ generated.entity.properties)
    (levels : Nat) :
    Run.Makes r' (levels + 1) (GeneratedName.accessor generated.entity.name p.name)
      Machine.Accesses := by
  have hdescribes := h.describes
  obtain ⟨accessor, hlinks⟩ := hlinked.accessors p hp
  have hloaded := h.loaded_accessor hp hlinks
  intro m hm
  have hlinks := hm.links_iff.mpr hlinks
  have haccesses {m' : Machine} (hstands : m'.Stands m.heap.size accessor) :
      m'.Accesses m.heap.size := by
    refine ⟨hstands.bound, ?_⟩
    rw [Machine.isInstance, hstands.type]
    exact hloaded.isAccessor
  cases hcalls : g.mode.backend.needsAugmentation with
  | true =>
    obtain ⟨r₁, hlater, hmade⟩ := hloaded.make_idle levels hcalls hlinks
    exact ⟨_, hmade, Machine.allocated_grows hlater accessor,
      haccesses (m.stands_allocated r₁ accessor)⟩
  | false =>
    obtain ⟨entity, hentity⟩ := hlinked.entity hcalls (List.ne_nil_of_mem hp)
    obtain ⟨hfronts, hwell⟩ := h.fronts_entity (hdescribes.name ▸ hentity)
    have hentity := hm.links_iff.mpr hentity
    cases haccess : p.access with
    | field =>
      obtain ⟨slot, field, hslot, hfield⟩ := slot_found hfronts (hdescribes.found p hp) haccess
      obtain ⟨m', _, hmade, hgrows, _, hstands, _⟩ := hloaded.make_resolving levels hcalls haccess
        hlinks hentity hslot hfield
      exact ⟨m', hmade, hgrows, haccesses hstands⟩
    | method getter setter =>
      obtain ⟨hgetter, hsetter⟩ := offers_members hfronts hwell (hdescribes.found p hp) haccess
      obtain ⟨m', _, _, hmade, hgrows, hstands, _⟩ := hloaded.make_bound levels hcalls haccess
        hlinks hentity hgetter hsetter
      exact ⟨m', hmade, hgrows, haccesses hstands⟩

/-- Models of all properties are made. -/
theorem Installs.makes_model (h : g.Installs r r' c generated bodies body)
    (hlinked : g.Linked r' generated) {p : Property} (hp : p ∈ generated.entity.properties)
    (levels : Nat) :
    Run.Makes r' (levels + 2) (p.modelName generated.entity.name)
      (p.ModelledIn r'.annotations generated.entity.name) := by
  obtain ⟨known, replay, loadNames, type, annotations, hreplay, hcompleted, hreplayed, hloadNames,
    htype, _, hb⟩ := h.model_made hp
  obtain ⟨loaded, hlinks⟩ := hlinked.models p hp
  have hmakes := Property.make_model hlinks ((h.stores _ hb).fronts h.sound hlinks) hreplay
    hcompleted hloadNames htype (h.makes_accessor hlinked hp levels)
  intro m hm
  obtain ⟨m', hmade, hgrows, hmodelled⟩ := hmakes m hm
  exact ⟨m', hmade, hgrows, annotations, hreplayed, hmodelled⟩

/-- The model of an entity is made once the classes behind it link. -/
theorem Installs.make_linked (h : g.Installs r r' c generated bodies body)
    (hlinked : g.Linked r' generated) {m : Machine} (hm : r'.Later m.registry) :
    ∃ annotations ids m', r'.annotations.replayed generated.entity.annotations = .ok annotations ∧
      (g.entityModel generated).on m = (.ok (.generated m.heap.size), m') ∧
      generated.entity.ModelledBy r'.annotations g.config annotations ids m' m.heap.size := by
  obtain ⟨known, replay, type, hknown, hcount, hreplay, htype, hbody⟩ :=
    Entity.modelBody_ok h.makes.model
  obtain ⟨annotations, hcompleted, hreplayed⟩ := AnnotationRegistry.replayable_ok hknown
  rw [← h.annotations] at hcompleted hreplayed
  have htype := Code.typeData_pushes htype
  obtain ⟨loaded, hlinks⟩ := hlinked.model
  subst hbody
  have hstored := h.stores (generated.entity.modelBodyOf replay type)
    (List.mem_append_right _ (List.mem_singleton.mpr rfl))
  obtain ⟨ids, m', hmade, _, hmodelled⟩ := Entity.make_model (hm.links_iff.mpr hlinks)
    (hstored.fronts h.sound hlinks) hreplay hcompleted htype hcount
    (fun p hp => h.makes_model hlinked hp 253) hm g.config
  refine ⟨annotations, ids, m', hreplayed, ?_, hmodelled⟩
  unfold entityModel
  rw [h.makes.modelClass]
  exact on_bind_ok hmade

/-- The model of an entity is made. -/
theorem Installs.make_entityModel (h : g.Installs r r' c generated bodies body)
    (hcast : (Instruction.checkCast generated.entity.name).WellFormed)
    (hentity : r'.Links c.name entity) (hobject : r'.contains ClassName.object = false) {m : Machine}
    (hm : r'.Later m.registry) :
    ∃ annotations ids m', r'.annotations.replayed generated.entity.annotations = .ok annotations ∧
      (g.entityModel generated).on m = (.ok (.generated m.heap.size), m') ∧
      generated.entity.ModelledBy r'.annotations g.config annotations ids m' m.heap.size :=
  h.make_linked (h.linked hcast hentity hobject) hm

/-- **Model parity.** If a pass over a class succeeds in any mode, the class of the entity loads, and
the class of all objects is left to the outside, then the model of the entity is made and keeps the
policy that it was made for; it and the models of its properties answer every query, and all that
they answer is what the model of the description answers, which is what the description tells. -/
theorem model_parity {g : Generator} {r r' : ClassRegistry} {c : ClassMeta}
    {generated : GeneratedEntity} {m : Machine} (hreach : r.Reachable)
    (hdigests : ClassRegistry.DigestsSeparate r.records generated.records)
    (h : g.generate r c = .ok (generated, r')) (hname : c.name.toList.head? ≠ some '[')
    (hentity : ∃ entity, (r'.load c.name).1 = .ok entity)
    (hobject : r'.contains ClassName.object = false) (hm : r'.Later m.registry) :
    ∃ id m', (g.entityModel generated).on m = (.ok (.generated id), m') ∧
      (∀ query ∈ EntityQuery.all, ∃ v, (Run.ask id query).on m' = (.ok v, m')) ∧
      (Run.ask id EntityQuery.config).on m' = (.ok (.config g.config), m') ∧
      (∃ models : List Nat,
        (EntityModel.generated id).properties.on m' = (.ok (models.map .generated), m') ∧
        ∀ model ∈ models,
          (∀ query ∈ PropertyQuery.all, ∃ v, (Run.ask model query).on m' = (.ok v, m')) ∧
          (∃ accessor, (PropertyModel.generated model).accessor.on m' = (.ok accessor, m')) ∧
          ∃ multiple, (PropertyModel.generated model).isMultiple.on m' = (.ok multiple, m')) ∧
      (∃ found, (EntityModel.generated id).idProperty?.on m' = (.ok found, m')) ∧
      ∃ described snapshot, g.describedModel r' generated = .ok described ∧
        (EntityModel.generated id).snapshot.on m' = (.ok snapshot, m') ∧
        described.snapshot.on m' = (.ok snapshot, m') ∧
        generated.entity.Tells r'.annotations g.config snapshot := by
  obtain ⟨bodies, body, hinstalls⟩ := generate_installs hreach hdigests h
  obtain ⟨entity, hentity⟩ := hentity
  have hlinks := ClassRegistry.load_ok_iff.mp hentity
  have hcast : (Instruction.checkCast generated.entity.name).WellFormed := by
    intro harray
    rw [hinstalls.describes.name, isArrayTarget, decide_eq_true_eq] at harray
    exact absurd harray hname
  obtain ⟨annotations, ids, m', hannotations, hmade, hmodelled⟩ :=
    hinstalls.make_entityModel hcast hlinks hobject hm
  -- The properties with their completed annotations, in the order of their models.
  obtain ⟨described, hproperties, hreplayed, hsnapshot⟩ := hmodelled.described
  obtain ⟨model, hmodel, hreference⟩ :=
    Entity.ofEntity_snapshot m' hannotations hproperties hreplayed
  have hconfig := hmodelled.answers (EntityQuery.config, .config g.config) (by simp [Entity.answers])
  refine ⟨m.heap.size, m', hmade, ?_, hconfig, ⟨ids, hmodelled.properties_on, ?_⟩,
    hmodelled.idProperty_on, model, _, hmodel, hsnapshot, hreference,
    annotations, described, hannotations, hproperties, hreplayed, rfl⟩
  · intro query hquery
    rw [← Entity.answers_queries, List.mem_map] at hquery
    obtain ⟨answer, hanswer, rfl⟩ := hquery
    exact ⟨answer.2, hmodelled.answers answer hanswer⟩
  · intro id hid
    obtain ⟨p, _, _, _, hentry⟩ := Checked.forall₂_mem_right hmodelled.models hid
    refine ⟨?_, ?_, _, hentry.isMultiple_on⟩
    · intro query hquery
      obtain ⟨accessor, _, hanswers⟩ := hentry.answers
      rw [← Property.answers_queries accessor, List.mem_map] at hquery
      obtain ⟨answer, hanswer, rfl⟩ := hquery
      exact ⟨answer.2, hanswers answer hanswer⟩
    · obtain ⟨accessor, haccessor, _⟩ := hentry.accessor_on
      exact ⟨.generated accessor, haccessor⟩

/-- The model of a class with annotated members is made, and tells of their annotations and of the
names that they are loaded from. -/
theorem model_parity_account :
    ∃ generated r' id m' described snapshot,
      (Generator.mk .annotated .runtime).generate {} Entity.account = .ok (generated, r') ∧
      ((Generator.mk .annotated .runtime).entityModel generated).on { registry := r' } =
        (.ok (.generated id), m') ∧
      (Generator.mk .annotated .runtime).describedModel r' generated = .ok described ∧
      (EntityModel.generated id).snapshot.on m' = (.ok snapshot, m') ∧
      described.snapshot.on m' = (.ok snapshot, m') ∧
      snapshot.properties.map (fun p => (p.name, p.loadNames)) =
        [("key", []), ("mail", ["email"]), ("owner", [])] ∧
      snapshot.properties.map (fun p => p.annotations.map (·.typeName)) =
        [[AnnotationNames.id], [AnnotationNames.property, AnnotationNames.alsoLoad],
          [AnnotationNames.property]] := by
  obtain ⟨generated, r', hgenerate, hentity, hdigests, hobject, hload, _, hannotations⟩ :=
    account_loads
  obtain ⟨id, m', hmade, _, _, _, _, described, snapshot, hdescribed, hsnapshot, hreference,
    htells⟩ := model_parity (m := { registry := r' }) (.new .builtin) hdigests hgenerate
      (by decide) hload hobject (.refl r')
  rw [hannotations] at htells
  obtain ⟨hnames, hreplayed⟩ := htells.properties
  have hmembers := Checked.decided (P := fun e : Entity =>
    e.properties.map (fun p => (p.name, p.loadNames)) =
      [("key", []), ("mail", ["email"]), ("owner", [])]) hentity (by decide +kernel)
  have htypes := Checked.decided (P := fun e : Entity =>
    (e.properties.mapM fun p => AnnotationRegistry.builtin.replayed p.annotations).toOption.map
      (·.map (·.map (·.typeName))) =
        some [[AnnotationNames.id], [AnnotationNames.property, AnnotationNames.alsoLoad],
          [AnnotationNames.property]]) hentity (by decide +kernel)
  simp only [hreplayed, Except.toOption, Option.map_some, Option.some.injEq, List.map_map] at htypes
  exact ⟨generated, r', id, m', described, snapshot, hgenerate, hmade, hdescribed, hsnapshot,
    hreference, hnames.trans hmembers, htypes⟩

end Generator

end EntityForge
