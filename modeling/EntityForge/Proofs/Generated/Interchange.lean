import EntityForge.Proofs.Generated.AccessorSession
import EntityForge.Proofs.Registry.Faces

/-!
Modes are interchangeable. Two passes over one class in different modes leave registries that are
alike: only the accessors differ in their fields, and no class differs in its head. So the same calls
of accessors meet the same store, the same objects pass the checks and the same values fit.
-/

namespace EntityForge

open Run

namespace AccessorShape

theorem accessorBody_sameHead (s : AccessorShape) (backend backend' : Backend) :
    (backend.accessorBody s).SameHead (backend'.accessorBody s) := by
  unfold Backend.accessorBody
  split <;> split <;> exact ⟨rfl, rfl, rfl⟩

end AccessorShape

theorem GenerationMode.entityBody_sameHead (mode mode' : GenerationMode) (c : ClassMeta)
    (e : Entity) : (mode.entityBody c e).SameHead (mode'.entityBody c e) where
  name := by rw [entityBody_name, entityBody_name]
  interfaces := by rw [entityBody_interfaces, entityBody_interfaces]
  superName := by rw [entityBody_superName, entityBody_superName]

/-- Each class of a pass has a counterpart in a pass of another mode: the same head, and the same
slots unless it is an accessor. -/
theorem GenerationMode.bodies_counterpart (mode mode' : GenerationMode) {c : ClassMeta} {e : Entity}
    {models : List ClassBody} {model b : ClassBody} (hb : b ∈ mode.bodies c e models model) :
    ∃ b' ∈ mode'.bodies c e models model, b.SameHead b' ∧
      ((∃ p ∈ e.properties, b.name = GeneratedName.accessor e.name p.name) ∨
        ClassRegistry.ownSlots b = ClassRegistry.ownSlots b') := by
  simp only [bodies, List.mem_append, List.mem_cons, List.mem_map, List.not_mem_nil, or_false]
    at hb ⊢
  rcases hb with (((rfl | ⟨p, hp, rfl⟩) | hb) | rfl)
  · refine ⟨_, .inl (.inl (.inl rfl)), entityBody_sameHead mode mode' c e, .inr ?_⟩
    rw [ownSlots_entityBody, ownSlots_entityBody]
  · refine ⟨_, .inl (.inl (.inr ⟨p, hp, rfl⟩)), AccessorShape.accessorBody_sameHead _ _ _,
      .inl ⟨p, hp, ?_⟩⟩
    rw [Backend.accessorBody_name]
    rfl
  · exact ⟨b, .inl (.inr hb), .refl b, .inr rfl⟩
  · exact ⟨b, .inr rfl, .refl b, .inr rfl⟩

namespace Generator

variable {config : MappingConfig} {mode mode' : GenerationMode} {r r₁ r₂ : ClassRegistry}
  {c : ClassMeta} {generated generated' : GeneratedEntity}

/-- The description of an entity and the models do not depend on the mode. -/
theorem Makes.agree {annotations : AnnotationRegistry} {bodies bodies' : List ClassBody}
    {body body' : ClassBody}
    (h : (Generator.mk config mode).Makes annotations c generated bodies body)
    (h' : (Generator.mk config mode').Makes annotations c generated' bodies' body') :
    generated.entity = generated'.entity ∧ bodies = bodies' ∧ body = body' := by
  have hentity : generated.entity = generated'.entity :=
    Except.ok.inj (h.described.symm.trans h'.described)
  have hbodies : bodies = bodies' := by
    have hmapped := Checked.mapM_eq_ok.mpr h.models
    have hmapped' := Checked.mapM_eq_ok.mpr h'.models
    rw [← hentity] at hmapped'
    exact Except.ok.inj (hmapped.symm.trans hmapped')
  have hbody := h.model
  rw [hentity] at hbody
  exact ⟨hentity, hbodies, Except.ok.inj (hbody.symm.trans h'.model)⟩

/-- A name that no class of a pass has stands for what it stood for before. -/
private theorem Installs.get?_of_other {g : Generator} {r r' : ClassRegistry}
    {bodies : List ClassBody} {body : ClassBody} (h : g.Installs r r' c generated bodies body)
    {name : String}
    (hother : ∀ b ∈ g.mode.bodies c generated.entity bodies body, b.name ≠ name) :
    r'.records.get? name = r.records.get? name := by
  cases hbefore : r.records.get? name with
  | some record => exact h.known name record hbefore
  | none =>
    cases hafter : r'.records.get? name with
    | none => rfl
    | some record =>
      rcases h.keeps name record hafter with hold | ⟨b, hb, hname⟩
      · cases hbefore.symm.trans hold
      · exact absurd hname (hother b hb)

variable {bodies bodies' : List ClassBody} {body body' : ClassBody}

/-- What a name stands for after two passes of different modes: a class of each pass, or a record
that was there before. -/
private theorem Installs.pairing
    (h : (Generator.mk config mode).Installs r r₁ c generated bodies body)
    (h' : (Generator.mk config mode').Installs r r₂ c generated' bodies' body') (name : String) :
    (∃ b b', b.name = name ∧ b'.name = name ∧ ClassRegistry.Stores r₁.records b ∧
      ClassRegistry.Stores r₂.records b' ∧ b.SameHead b' ∧
      (name ∈ generated.accessorClasses ∨
        ClassRegistry.ownSlots b = ClassRegistry.ownSlots b')) ∨
    r₁.records.get? name = r₂.records.get? name := by
  obtain ⟨hentity, rfl, rfl⟩ := h.makes.agree h'.makes
  by_cases hmade : ∃ b ∈ mode.bodies c generated.entity bodies body, b.name = name
  · obtain ⟨b, hb, rfl⟩ := hmade
    obtain ⟨b', hb', hhead, hslots⟩ := GenerationMode.bodies_counterpart mode mode' hb
    refine .inl ⟨b, b', rfl, hhead.name.symm, h.stores b hb, h'.stores b' (hentity ▸ hb'), hhead,
      hslots.imp_left ?_⟩
    rintro ⟨p, hp, hname⟩
    rw [hname, h.makes.accessorClasses]
    exact List.mem_map.mpr ⟨p, hp, rfl⟩
  · have hother : ∀ b ∈ mode.bodies c generated.entity bodies body, b.name ≠ name :=
      fun b hb hname => hmade ⟨b, hb, hname⟩
    have hother' : ∀ b ∈ mode'.bodies c generated'.entity bodies body, b.name ≠ name := by
      intro b hb hname
      obtain ⟨b', hb', hhead, _⟩ := GenerationMode.bodies_counterpart mode' mode hb
      exact hother b' (hentity ▸ hb') (hhead.name.symm.trans hname)
    exact .inr ((h.get?_of_other hother).trans (h'.get?_of_other hother').symm)

private theorem definition_eq_of_get? {records records' : Keyed ClassRecord} {name : String}
    (h : records.get? name = records'.get? name) :
    ClassRegistry.definition records name = ClassRegistry.definition records' name := by
  unfold ClassRegistry.definition ClassRegistry.body
  rw [h]

/-- The registries after two passes of different modes are alike, but for the accessors. -/
theorem Installs.alike (h : (Generator.mk config mode).Installs r r₁ c generated bodies body)
    (h' : (Generator.mk config mode').Installs r r₂ c generated' bodies' body') :
    ClassRegistry.Alike r₁.records r₂.records generated.accessorClasses where
  contains name := by
    rcases h.pairing h' name with ⟨b, b', hb, hb', ⟨_, hget, _⟩, ⟨_, hget', _⟩, _⟩ | hsame
    · rw [hb] at hget
      rw [hb'] at hget'
      rw [Keyed.contains, hget, Keyed.contains, hget']
      rfl
    · rw [Keyed.contains, hsame, Keyed.contains]
  heads name d d' hd hd' := by
    rcases h.pairing h' name with ⟨b, b', rfl, hb', hstored, hstored', hhead, _⟩ | hsame
    · rw [← hb'] at hd'
      rw [hstored.definition_eq hd, hstored'.definition_eq hd']
      exact hhead
    · rw [definition_eq_of_get? hsame, hd'] at hd
      cases hd
      exact .refl _
  slots name d d' hd hd' := by
    rcases h.pairing h' name with ⟨b, b', rfl, hb', hstored, hstored', _, hslots⟩ | hsame
    · rw [← hb'] at hd'
      rw [hstored.definition_eq hd, hstored'.definition_eq hd']
      exact hslots
    · rw [definition_eq_of_get? hsame, hd'] at hd
      cases hd
      exact .inr rfl

/-- What two passes of different modes load looks alike. -/
theorem Installs.links_alike
    (h : (Generator.mk config mode).Installs r r₁ c generated bodies body)
    (h' : (Generator.mk config mode').Installs r r₂ c generated' bodies' body') {name : String}
    {k k' : LoadedClass} (hk : r₁.Links name k) (hk' : r₂.Links name k') :
    k.SameFace k' ∧
      ((∀ a ∈ generated.accessorClasses, k.isSubclassOf a = false) → k.slots = k'.slots) := by
  obtain ⟨_, hderives⟩ := hk
  obtain ⟨_, hderives'⟩ := hk'
  rw [h.loaded] at hderives
  rw [h'.loaded] at hderives'
  exact (h.alike h').derives hderives hderives'

variable {entity entity' : LoadedClass} {accessorClass accessorClass' : Property → LoadedClass}
  {inherited inherited' own own' : List FieldSlot} {m m' m₁ m₁' : Machine}

/-- Sessions that start on machines with the same objects have objects of the same classes. -/
private theorem isInstance_alike {e : Entity} {count : Nat} {properties : List Property}
    {σ σ' : FieldStore} (hheap : m.heap = m'.heap) (hgrows : m.Grows m₁) (hgrows' : m'.Grows m₁')
    (hsize : m₁.heap.size = m.heap.size + count + properties.length)
    (hsize' : m₁'.heap.size = m'.heap.size + count + properties.length)
    (hclass : ∀ p id, (p, id) ∈ properties.zipIdx (m.heap.size + count) →
      m₁.classOf id = accessorClass p)
    (hclass' : ∀ p id, (p, id) ∈ properties.zipIdx (m'.heap.size + count) →
      m₁'.classOf id = accessorClass' p)
    (hholds : (AccessorSession.behind m.heap.size e count properties).Holds entity inherited own σ
      m₁)
    (hholds' : (AccessorSession.behind m'.heap.size e count properties).Holds entity' inherited'
      own' σ' m₁')
    (hentity : entity.SameFace entity')
    (haccessor : ∀ p ∈ properties, (accessorClass p).SameFace (accessorClass' p)) :
    m₁.isInstance = m₁'.isInstance := by
  rw [← hheap] at hsize' hclass' hholds'
  have hobject : ∀ id, m.object id = m'.object id := fun id => by
    rw [Machine.object, hheap, Machine.object]
  funext id target
  unfold Machine.isInstance
  by_cases hold : id < m.heap.size
  · rw [hgrows.classOf hold, hgrows'.classOf (hheap ▸ hold), Machine.classOf_object,
      Machine.classOf_object, hobject]
  by_cases hobjects : id < m.heap.size + count
  · have hmem : id ∈ (AccessorSession.behind m.heap.size e count properties).objects :=
      AccessorSession.mem_objects_behind.mpr ⟨Nat.le_of_not_lt hold, hobjects⟩
    rw [Machine.classOf_object, (hholds.objects id hmem).2, Machine.classOf_object,
      (hholds'.objects id hmem).2]
    exact hentity.isSubclassOf target
  by_cases haccessors : id < m.heap.size + count + properties.length
  · have hplace : id - (m.heap.size + count) < properties.length := by omega
    have hmem : (properties[id - (m.heap.size + count)], id) ∈
        properties.zipIdx (m.heap.size + count) :=
      List.mem_zipIdx_iff_le_and_getElem?_sub.mpr
        ⟨Nat.le_of_not_lt hobjects, List.getElem?_eq_getElem hplace⟩
    rw [hclass _ _ hmem, hclass' _ _ hmem]
    exact (haccessor _ (List.getElem_mem hplace)).isSubclassOf target
  · rw [Machine.classOf_none m₁ id (by omega), Machine.classOf_none m₁' id (by omega)]

/-- Modes are interchangeable. Two passes over one class in any two modes, whose classes all load,
leave accessors that answer the same: on machines with the same objects the same session starts, and
after any calls of it each further call answers the same value or the same failure. The declared
fields of the objects are equal all the time; so are all their fields, unless the entity extends one
of its own accessors, whose fields depend on the mode. -/
theorem accessors_interchange (hreachable : r.Reachable)
    (hdigests : ClassRegistry.DigestsSeparate r.records generated.records)
    (hdigests' : ClassRegistry.DigestsSeparate r.records generated'.records)
    (hgenerate : (Generator.mk config mode).generate r c = .ok (generated, r₁))
    (hgenerate' : (Generator.mk config mode').generate r c = .ok (generated', r₂))
    (hall : r₁.AllLoad generated.classNames) (hall' : r₂.AllLoad generated'.classNames)
    (hfields : (c.fields.map (·.name)).Nodup)
    (htypes : KeepsTypes c generated.entity)
    (hspares : c.SparesInjected generated.entity.properties)
    (hm : r₁.Later m.registry) (hm' : r₂.Later m'.registry) (hheap : m.heap = m'.heap)
    (count : Nat) {properties : List Property}
    (hproperties : ∀ p ∈ properties, p ∈ generated.entity.properties ∧ p.access = .field) :
    ∃ session m₁ m₁',
      (AccessorSession.start generated.entity count properties).on m = (.ok session, m₁) ∧
      (AccessorSession.start generated'.entity count properties).on m' = (.ok session, m₁') ∧
      session.objects.length = count ∧ session.accessors.map (·.1) = properties ∧
      (∀ object ∈ session.objects, (m₁.classOf object).name = generated.name ∧
        (m₁'.classOf object).name = generated'.name) ∧
      ∀ calls, (∀ call ∈ calls, session.Admits call) →
        (∀ call, session.Admits call → (call.run.on (AccessorCall.after calls m₁)).1 =
          (call.run.on (AccessorCall.after calls m₁')).1) ∧
        ∀ object ∈ session.objects,
          (∀ f ∈ c.fields, f.has AccessFlag.isStatic = false → ∃ v,
            (AccessorCall.after calls m₁).field? object f.name = some v ∧
            (AccessorCall.after calls m₁').field? object f.name = some v) ∧
          ((∀ accessor ∈ generated.accessorClasses, m₁.isInstance object accessor = false) →
            ((AccessorCall.after calls m₁).object object).fields =
              ((AccessorCall.after calls m₁').object object).fields) := by
  obtain ⟨bodies, body, hinstalls⟩ := generate_installs hreachable hdigests hgenerate
  obtain ⟨bodies', body', hinstalls'⟩ := generate_installs hreachable hdigests' hgenerate'
  have hentity := (hinstalls.makes.agree hinstalls'.makes).1
  have hdescribes := hinstalls.describes
  obtain ⟨entity, accessorClass, inherited, own, hloads⟩ := hinstalls.loads hall hfields
  obtain ⟨entity', accessorClass', inherited', own', hloads'⟩ := hinstalls'.loads hall' hfields
  rw [← hentity] at hloads'
  have hown : own = own' := Except.ok.inj (hloads.ownSlots.symm.trans hloads'.ownSlots)
  subst hown
  obtain ⟨m₁, hstart, hgrows, hsize, hclass, hholds⟩ :=
    hloads.start_on hdescribes htypes hspares hm count hproperties
  obtain ⟨m₁', hstart', hgrows', hsize', hclass', hholds'⟩ :=
    hloads'.start_on hdescribes htypes hspares hm' count hproperties
  obtain ⟨hface, hslots⟩ := hinstalls.links_alike hinstalls' hloads.links hloads'.links
  have hsame : m₁.isInstance = m₁'.isInstance := by
    refine isInstance_alike hheap hgrows hgrows' hsize hsize' hclass hclass' hholds hholds' hface ?_
    intro p hp
    have hmem := (hproperties p hp).1
    exact (hinstalls.links_alike hinstalls' (hloads.accessors p hmem).1
      (hloads'.accessors p hmem).1).1
  have hname : entity.name = generated.name := hloads.name hdescribes.name
  have hname' : entity'.name = generated.name := hloads'.name hdescribes.name
  rw [← hheap] at hstart' hholds'
  have hstart' : (AccessorSession.start generated'.entity count properties).on m' =
      (.ok (.behind m.heap.size generated.entity count properties), m₁') := by
    rw [← hentity]
    exact hstart'
  refine ⟨_, m₁, m₁', hstart, hstart', by simp [AccessorSession.behind],
    by simp [AccessorSession.behind, Function.comp_def], ?_, ?_⟩
  · intro object hobject
    rw [Machine.classOf_object, (hholds.objects object hobject).2, Machine.classOf_object,
      (hholds'.objects object hobject).2]
    exact ⟨hname, hname'.trans (congrArg Entity.name hentity)⟩
  intro calls hcalls
  -- Both machines are in the state of one store, since they admit and accept the same.
  have hconforms : m₁.conforms = m₁'.conforms := by
    unfold Machine.conforms
    rw [hsame]
  have hfits : m₁.fits = m₁'.fits := by
    unfold Machine.fits
    rw [hsame]
  obtain ⟨hunchanged, hafter⟩ := hholds.run calls hcalls
  obtain ⟨hunchanged', hafter'⟩ := hholds'.run calls hcalls
  rw [← hconforms, ← hfits, hname', ← hname] at hafter'
  have hsame' : (AccessorCall.after calls m₁).isInstance =
      (AccessorCall.after calls m₁').isInstance := by
    rw [hunchanged, hunchanged', hsame]
  refine ⟨?_, ?_⟩
  · intro call hcall
    obtain ⟨_, hrun, _⟩ := hafter.step call hcall
    obtain ⟨_, hrun', _⟩ := hafter'.step call hcall
    rw [hrun, hrun', hname, hname']
    unfold Machine.conforms Machine.fits
    rw [hsame']
  · intro object hobject
    refine ⟨?_, ?_⟩
    · intro f hf hinstance
      obtain ⟨slot, hslot, hslotName, _⟩ := ClassMeta.slot_of_field hloads.ownSlots hf hinstance
      rw [← hslotName]
      exact ⟨_, hafter.field? hobject hslot, hafter'.field? hobject hslot⟩
    · intro hnone
      have hextends : ∀ a ∈ generated.accessorClasses, entity.isSubclassOf a = false := by
        intro a ha
        have hnot := hnone a ha
        rwa [Machine.isInstance, Machine.classOf_object, (hholds.objects object hobject).2] at hnot
      have hinherited : inherited = inherited' := by
        have hequal := hslots hextends
        rw [hloads.layout.slots, hloads'.layout.slots] at hequal
        exact List.append_cancel_right hequal
      rw [(hafter.objects object hobject).2, (hafter'.objects object hobject).2, hinherited]

/-- Accessors that call a class of one field and accessors that bind its field answer the same. -/
theorem accessors_interchange_counter :
    ∃ generated generated' r₁ r₂ session m₁ m₁',
      (Generator.mk {} (.selfContained .builder)).generate {} (Counter.classMeta "app.Counter" none) =
        .ok (generated, r₁) ∧
      (Generator.mk {} .runtime).generate {} (Counter.classMeta "app.Counter" none) =
        .ok (generated', r₂) ∧
      (AccessorSession.start generated.entity 1 [Counter.property]).on { registry := r₁ } =
        (.ok session, m₁) ∧
      (AccessorSession.start generated'.entity 1 [Counter.property]).on { registry := r₂ } =
        (.ok session, m₁') ∧
      ∀ calls, (∀ call ∈ calls, session.Admits call) → ∀ call, session.Admits call →
        (call.run.on (AccessorCall.after calls m₁)).1 =
          (call.run.on (AccessorCall.after calls m₁')).1 := by
  have hchecks : Counter.Checks (.selfContained .builder) "app.Counter" none := by decide +kernel
  have hchecks' : Counter.Checks .runtime "app.Counter" none := by decide +kernel
  obtain ⟨generated, r₁, hgenerate, hentity, hdigests, _, _, hall⟩ := Counter.loads hchecks
  obtain ⟨generated', r₂, hgenerate', _, hdigests', _, _, hall'⟩ := Counter.loads hchecks'
  have hm : r₁.Later ({ registry := r₁ } : Machine).registry := .refl r₁
  have hm' : r₂.Later ({ registry := r₂ } : Machine).registry := .refl r₂
  obtain ⟨session, m₁, m₁', hstart, hstart', _, _, _, hagree⟩ :=
    accessors_interchange (.new .builtin) hdigests hdigests' hgenerate
      hgenerate' (hall.mono (generate_names hgenerate)) (hall'.mono (generate_names hgenerate'))
      (Counter.fieldNames _ _) (hentity ▸ Counter.keepsTypes _ _)
      (Counter.spares _ _ _) hm hm' rfl 1 (Counter.properties hentity)
  exact ⟨generated, generated', r₁, r₂, session, m₁, m₁', hgenerate, hgenerate', hstart, hstart',
    fun calls hcalls => (hagree calls hcalls).1⟩

end Generator

namespace Counter

/-- The class as one that extends the accessor of its own property. -/
def extending (name : String) : ClassMeta :=
  classMeta name (some (GeneratedName.accessor name property.name))

variable {mode : GenerationMode} {name : String} {handles : List FieldSlot}
  {generated : GeneratedEntity} {r' : ClassRegistry}

/-- The class is loaded behind the accessor, whose fields come first. -/
private theorem extending_links
    (h : Checks mode name (some (GeneratedName.accessor name property.name)))
    (hinstalls : (Generator.mk {} mode).Installs {} r' (extending name) generated
      [propertyModel name] (entityModel name)) (hentity : generated.entity = entity name)
    (hobject : r'.contains ClassName.object = false)
    (hhandles : ClassRegistry.ownSlots (mode.backend.accessorBody ⟨name, property⟩) = .ok handles) :
    ∃ own loaded, r'.Links name loaded ∧ own.length = 1 ∧ loaded.slots = handles ++ own := by
  have hnew (other : String) : r'.loaded.get? other = none := by
    rw [hinstalls.loaded]
    rfl
  let b := mode.entityBody (extending name) (entity name)
  let a := mode.backend.accessorBody ⟨name, property⟩
  have hstored : ClassRegistry.Stores r'.records b := by
    have hmember := hinstalls.stores _ List.mem_cons_self
    rwa [hentity] at hmember
  have hstoredAccessor : ClassRegistry.Stores r'.records a := by
    have hmember := hinstalls.stores (mode.backend.accessorBody ⟨generated.entity.name, property⟩)
    rw [hentity] at hmember
    exact hmember (by simp [GenerationMode.bodies, entity])
  have halone : a.StandsAlone := by
    have hdenotable := hinstalls.describes.denotable property (by rw [hentity]; simp [entity])
    exact mode.backend.accessorBody_standsAlone hdenotable h.casts fun _ _ haccess => by
      cases haccess
  have haccessor := hstoredAccessor.links_alone halone.wellFormed hhandles
    (halone.superName ▸ Generator.outside_object hobject) (hnew _)
  have hsuper : b.superName.filter r'.records.contains = some a.name := by
    have hsuperName : b.superName = some a.name := by
      rw [GenerationMode.entityBody_superName, Backend.accessorBody_name]
      rfl
    obtain ⟨record, hrecord, _⟩ := hstoredAccessor
    rw [hsuperName, Option.filter_some, Keyed.contains, hrecord]
    rfl
  have hfields : LoadedClass.instanceFields b = [⟨"a", "I", AccessFlag.isPrivate, none⟩] := by
    rw [GenerationMode.instanceFields_entityBody]
    rfl
  obtain ⟨own, hown⟩ : ∃ own, ClassRegistry.ownSlots b = .ok own := by
    refine ClassRegistry.ownSlots_ok h.wellFormed.fields ?_
    rw [GenerationMode.entityBody_fields]
    exact fun f hf => List.mem_singleton.mp hf ▸ rfl
  have hlinks := hstored.links_behind h.wellFormed hown hsuper haccessor (hnew _)
  rw [GenerationMode.entityBody_name] at hlinks
  refine ⟨own, _, hlinks, ?_, rfl⟩
  have hnames := congrArg List.length (ClassRegistry.ownSlots_names hown)
  rwa [List.length_map, hfields] at hnames

/-- An object of the class has the fields of the accessor in front of its own. -/
private theorem extending_fields
    (h : Checks mode name (some (GeneratedName.accessor name property.name)))
    (hhandles : ClassRegistry.ownSlots (mode.backend.accessorBody ⟨name, property⟩) = .ok handles) :
    ∃ generated r' m₁,
      (Generator.mk {} mode).generate {} (extending name) = .ok (generated, r') ∧
      generated.entity = entity name ∧ r'.AllLoad r'.names ∧
      (AccessorSession.start (entity name) 1 [property]).on { registry := r' } =
        (.ok (.behind 0 (entity name) 1 [property]), m₁) ∧
      ((AccessorCall.after [⟨property, .generated 1, 0, none⟩] m₁).object 0).fields.length =
        handles.length + 1 := by
  obtain ⟨generated, r', hgenerate, hentity, hdigests, hobject, hinstalls⟩ := generates h
  obtain ⟨own, loaded, hlinks, hcount, hslots⟩ :=
    extending_links h hinstalls hentity hobject hhandles
  have hall : r'.AllLoad r'.names := by
    refine hinstalls.allLoad (fun _ => rfl) hobject ?_ hlinks
    rw [hentity]
    exact h.casts
  obtain ⟨entityClass, _, inherited, own', hloads⟩ := hinstalls.loads
    (hall.mono (Generator.generate_names hgenerate)) (fieldNames _ _)
  rw [hentity] at hloads
  obtain rfl : entityClass = loaded := hloads.links.unique hlinks
  obtain ⟨m₁, hstart, _, _, _, hholds⟩ := hloads.start_on (m := { registry := r' })
    (hentity ▸ hinstalls.describes) (keepsTypes _ _) (spares _ _ _) (.refl r') 1 (properties rfl)
  have hmember : 0 ∈ (AccessorSession.behind 0 (entity name) 1 [property]).objects :=
    List.mem_singleton_self _
  obtain ⟨m₂, hrun, _, hsame, _⟩ :=
    hholds.step ⟨property, .generated 1, 0, none⟩ ⟨List.mem_singleton_self _, hmember⟩
  have hafter : AccessorCall.after [⟨property, .generated 1, 0, none⟩] m₁ = m₁ := by
    unfold AccessorCall.after
    rw [List.foldl_cons, List.foldl_nil, hrun, hsame (.inl rfl)]
  refine ⟨generated, r', m₁, hgenerate, hentity, hall, hstart, ?_⟩
  rw [hafter, (hholds.objects 0 hmember).2, List.length_append, List.length_map, List.length_map,
    ← List.length_append, ← hloads.layout.slots, hslots, List.length_append, hcount]

/-- The fields of an object that extends its own accessor depend on the mode: an accessor that binds
its field keeps the handle in a field of its own. -/
theorem accessors_interchange_extending :
    ∃ generated generated' r₁ r₂ session m₁ m₁' call object,
      (Generator.mk {} (.selfContained .direct)).generate {} (extending "X") =
        .ok (generated, r₁) ∧
      (Generator.mk {} (.selfContained .resolved)).generate {} (extending "X") =
        .ok (generated', r₂) ∧
      r₁.AllLoad r₁.names ∧ r₂.AllLoad r₂.names ∧
      ((extending "X").fields.map (·.name)).Nodup ∧
      Generator.KeepsTypes (extending "X") generated.entity ∧
      (extending "X").SparesInjected generated.entity.properties ∧
      property ∈ generated.entity.properties ∧ property.access = .field ∧
      (AccessorSession.start generated.entity 1 [property]).on { registry := r₁ } =
        (.ok session, m₁) ∧
      (AccessorSession.start generated'.entity 1 [property]).on { registry := r₂ } =
        (.ok session, m₁') ∧
      session.Admits call ∧ object ∈ session.objects ∧
      ((AccessorCall.after [call] m₁).object object).fields ≠
        ((AccessorCall.after [call] m₁').object object).fields := by
  have hchecks : Checks (.selfContained .direct) "X"
    (some (GeneratedName.accessor "X" property.name)) := by decide +kernel
  have hchecks' : Checks (.selfContained .resolved) "X"
    (some (GeneratedName.accessor "X" property.name)) := by decide +kernel
  obtain ⟨handle, hhandle⟩ : ∃ handle,
      ClassRegistry.ownSlots (Backend.resolved.accessorBody ⟨"X", property⟩) = .ok [handle] := by
    have hfields : LoadedClass.instanceFields (Backend.resolved.accessorBody ⟨"X", property⟩) =
        [AccessorShape.handleField AccessorShape.fieldHandle] := rfl
    unfold ClassRegistry.ownSlots LoadedClass.slotOf
    rw [hfields, List.mapM_cons]
    simp only [AccessorShape.handleField, Signature.parseType_handle]
    exact ⟨_, rfl⟩
  have hnone : ClassRegistry.ownSlots (Backend.direct.accessorBody ⟨"X", property⟩) = .ok [] := rfl
  obtain ⟨generated, r₁, m₁, hgenerate, hentity, hall, hstart, hfields⟩ :=
    extending_fields hchecks hnone
  obtain ⟨generated', r₂, m₁', hgenerate', hentity', hall', hstart', hfields'⟩ :=
    extending_fields hchecks' hhandle
  refine ⟨generated, generated', r₁, r₂, _, m₁, m₁', ⟨property, .generated 1, 0, none⟩, 0,
    hgenerate, hgenerate', hall, hall', fieldNames _ _, hentity ▸ keepsTypes _ _,
    spares _ _ _,
    (properties hentity _ (List.mem_singleton_self _)).1, rfl, hentity ▸ hstart,
    hentity' ▸ hstart', ⟨List.mem_singleton_self _, List.mem_singleton_self _⟩,
    List.mem_singleton_self _, ?_⟩
  intro hequal
  rw [hequal, hfields'] at hfields
  cases hfields

end Counter

end EntityForge
