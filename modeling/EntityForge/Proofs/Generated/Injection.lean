import EntityForge.Proofs.Class.RoundTrip
import EntityForge.Proofs.Generated.Completion
import EntityForge.Proofs.Generated.Declared
import EntityForge.Proofs.Machine.Blind

/-!
Injecting readers and writers is conservative. The class with readers and writers matches the class
as it is declared: they stand behind the declared methods, and nothing that is declared calls them.
So a registry with the one class cannot be told from a registry with the other one by calls that do
not name what was injected.
-/

namespace EntityForge

namespace ClassMeta

variable {c : ClassMeta} {properties : List Property} {b : ClassBody}

/-- The readers and writers that are injected for properties. -/
def injectedRefs (c : ClassMeta) (properties : List Property) : List MethodRef :=
  properties.flatMap fun p => (injectedMethods c.name p).map fun m => ⟨m.name, m.descriptor⟩

theorem constructor_not_injected (c : ClassMeta) (properties : List Property)
    (descriptor : String) :
    (⟨Construction.name, descriptor⟩ : MethodRef) ∉ c.injectedRefs properties := by
  intro hmem
  obtain ⟨p, _, hp⟩ := List.mem_flatMap.mp hmem
  obtain ⟨m, hm, href⟩ := List.mem_map.mp hp
  exact injected_ne_constructor hm (congrArg (·.name) href)

/-- Declared methods read and write fields, return or throw. -/
theorem compiled_code (hidden : List MethodRef) {m : MethodDef} (hm : m ∈ c.compiled.methods)
    {i : Instruction} (hi : i ∈ m.code) : i.WellFormed ∧ i.Avoids hidden := by
  obtain ⟨declared, _, rfl⟩ := List.mem_map.mp hm
  change i ∈ c.methodCode declared at hi
  unfold methodCode at hi
  split at hi
  · rw [List.mem_singleton.mp hi]
    exact ⟨trivial, trivial⟩
  · split at hi
    · simp only [readCode, List.mem_cons, List.not_mem_nil, or_false] at hi
      rcases hi with rfl | rfl | rfl <;> exact ⟨trivial, trivial⟩
    · simp only [writeCode, List.mem_cons, List.not_mem_nil, or_false] at hi
      rcases hi with rfl | rfl | rfl | rfl <;> exact ⟨trivial, trivial⟩
    · rw [List.mem_singleton.mp hi]
      exact ⟨trivial, trivial⟩

/-- The two classes of an entity differ in what is injected only. -/
theorem compiled_matches (h : c.augmented properties = .ok b) :
    c.compiled.Matches (c.injectedRefs properties) b where
  same := by
    rw [augmented_eq h]
    unfold ClassBody.without
    have hinjected : (properties.flatMap (injectedMethods c.name)).filter (fun m =>
        (⟨m.name, m.descriptor⟩ : MethodRef) ∉ c.injectedRefs properties) = [] := by
      refine List.filter_eq_nil_iff.mpr fun m hm => ?_
      obtain ⟨p, hp, hm⟩ := List.mem_flatMap.mp hm
      have hmem : (⟨m.name, m.descriptor⟩ : MethodRef) ∈ c.injectedRefs properties :=
        List.mem_flatMap.mpr ⟨p, hp, List.mem_map.mpr ⟨m, hm, rfl⟩⟩
      simpa using hmem
    simp only [List.filter_append, hinjected, List.append_nil]
  avoids _ hm _ hi := (compiled_code _ hm hi).2

/-- What is injected passes every check. -/
theorem augmented_check (h : c.augmented properties = .ok b)
    (htypes : ∀ p ∈ properties, p.type.Denotable) :
    (∀ m ∈ b.methods, ∀ i ∈ m.code, i.WellFormed) ∧ b.check = c.compiled.check := by
  rw [augmented_eq h]
  have hinjected : ∀ m ∈ properties.flatMap (injectedMethods c.name), m.WellFormed := by
    intro m hm
    obtain ⟨p, hp, hm⟩ := List.mem_flatMap.mp hm
    exact injectedMethods_wellFormed (htypes p hp) c.name m hm
  refine ⟨List.forall_mem_append.mpr ⟨fun m hm i hi => ?_, fun m hm => ?_⟩,
    c.compiled.check_append hinjected⟩
  · exact (compiled_code [] hm hi).1
  · exact (hinjected m hm).instructions

end ClassMeta

namespace ClassRegistry

/-- What the name of a stored class of well-formed instructions defines. -/
theorem Stores.definition_of_check {records : Keyed ClassRecord} {b : ClassBody}
    (h : Stores records b) (hcode : ∀ m ∈ b.methods, ∀ i ∈ m.code, i.WellFormed) :
    ClassRegistry.definition records b.name =
      (b.check.map fun _ => b).mapError .malformedBody := by
  obtain ⟨record, hrecord, hencode⟩ := h
  rw [ClassRegistry.definition, body, hrecord]
  simp only [ClassBody.decode_of_check hencode hcode]
  cases b.check with
  | error e => rfl
  | ok u => exact if_pos rfl

end ClassRegistry

namespace ClassMeta

/-- Two registries are the same but for the class of an entity, which the first one stores as it is
declared and the second one with readers and writers. No other class that they define names any of
these, and what is loaded from them already differs in these only. -/
structure Injects (c : ClassMeta) (properties : List Property) (r r' : ClassRegistry) : Prop where
  declared : ClassRegistry.Stores r.records c.compiled
  augmented : ∃ b, c.augmented properties = .ok b ∧ ClassRegistry.Stores r'.records b
  others : ∀ name, name ≠ c.name → r.records.get? name = r'.records.get? name
  silent : ∀ name, name ≠ c.name → ∀ b, ClassRegistry.definition r.records name = .ok b →
    ∀ m ∈ b.methods, m.Avoids (c.injectedRefs properties)
  loaded : ∀ name, Option.Rel (LoadedClass.Matches (c.injectedRefs properties))
    (r.loaded.get? name) (r'.loaded.get? name)
  annotations : r.annotations = r'.annotations

variable {c : ClassMeta} {properties : List Property} {r r' : ClassRegistry}

theorem Injects.matched (h : c.Injects properties r r')
    (htypes : ∀ p ∈ properties, p.type.Denotable) :
    r.Matches (c.injectedRefs properties) r' := by
  obtain ⟨b, haugmented, hstored⟩ := h.augmented
  have hname : b.name = c.name := by rw [augmented_eq haugmented]; rfl
  refine ⟨?_, fun name => ?_, h.loaded, h.annotations⟩
  · funext name
    by_cases heq : name = c.name
    · obtain ⟨record, hrecord, _⟩ := h.declared
      obtain ⟨record', hrecord', _⟩ := hstored
      rw [hname] at hrecord'
      have hrecord : r.records.get? c.name = some record := hrecord
      rw [heq, Keyed.contains, Keyed.contains, hrecord, hrecord']
      rfl
    · rw [Keyed.contains, Keyed.contains, h.others name heq]
  · by_cases heq : name = c.name
    · obtain ⟨hcode, hcheck⟩ := augmented_check haugmented htypes
      have hdeclared : ClassRegistry.definition r.records c.name =
          (c.compiled.check.map fun _ => c.compiled).mapError .malformedBody :=
        h.declared.definition_of_check fun _ hm _ hi => (compiled_code [] hm hi).1
      have hinjected := hstored.definition_of_check hcode
      rw [hname, hcheck] at hinjected
      rw [heq, hdeclared, hinjected]
      cases c.compiled.check with
      | error e => exact .error _
      | ok u => exact .ok (compiled_matches haugmented)
    · have hsame : ClassRegistry.definition r'.records name =
          ClassRegistry.definition r.records name := by
        rw [ClassRegistry.definition, ClassRegistry.body, ← h.others name heq,
          ClassRegistry.definition, ClassRegistry.body]
      rw [hsame]
      cases hdefined : ClassRegistry.definition r.records name with
      | error e => exact .error e
      | ok b => exact .ok (.refl (h.silent name heq b hdefined))

/-- Over registries that are the same but for the class of an entity, calls that name nothing that
was injected are answered alike, whether they succeed or fail, and leave the same objects with the
same values, of which the same conform and fit; and the class without what is injected declares the
fields of the metadata and its methods, the initializer of the class apart. -/
theorem injection_conservative {config : MappingConfig} {e : Entity}
    (hdiscover : Entity.discover config c = .ok e) (h : c.Injects e.properties r r') :
    (∀ calls : List MachineCall, (∀ call ∈ calls, call.Avoids (c.injectedRefs e.properties)) →
      let m : Machine := { registry := r }
      let m' : Machine := { registry := r' }
      m.answers calls = m'.answers calls ∧
      (m.after calls).heap.size = (m'.after calls).heap.size ∧
      (∀ id, ((m.after calls).object id).fields = ((m'.after calls).object id).fields) ∧
      (m.after calls).conforms = (m'.after calls).conforms ∧
      (m.after calls).fits = (m'.after calls).fits) ∧
    c.compiled.fields.map (fun f => (f.name, f.descriptor, f.flags, f.initial)) =
      c.fields.map (fun f => (f.name, f.descriptor, f.flags, f.constant)) ∧
    c.compiled.methods.map (fun m => (m.name, m.descriptor, m.flags)) =
      (c.methods.filter fun m => m.name ≠ classInitializer).map
        fun m => (m.name, m.descriptor, m.flags) := by
  refine ⟨fun calls hcalls => ?_, ?_, ?_⟩
  · have hstart := Machine.Matches.start (h.matched (Entity.discover_describes hdiscover).denotable)
    obtain ⟨hanswers, hafter⟩ :=
      hstart.session (c.constructor_not_injected e.properties) hcalls
    exact ⟨hanswers, hafter.size, fun id => (hafter.objects id).fields, hafter.conforms,
      hafter.fits⟩
  · simp [compiled, Function.comp_def]
  · simp [compiled, MethodDef.ofCode, Function.comp_def]

/-- Making, writing and reading a counter, with and without the reader and writer of its field. -/
theorem injection_conservative_counter :
    let c := Counter.classMeta "app.Counter" none
    let e := Counter.entity "app.Counter"
    let calls : List MachineCall := [.instantiate "app.Counter" Construction.plain [],
      .setField 0 "a" (.int 3), .getField 0 "a"]
    Entity.discover {} c = .ok e ∧ ∃ r r' : ClassRegistry, c.Injects e.properties r r' ∧
      ({ registry := r } : Machine).answers calls =
        ({ registry := r' } : Machine).answers calls := by
  intro c e calls
  let augmented : ClassBody :=
    { c.compiled with methods := e.properties.flatMap (injectedMethods c.name) }
  obtain ⟨bytes, hbytes⟩ := ClassBody.encode_of_limited (b := c.compiled) (by decide +kernel)
  obtain ⟨bytes', hbytes'⟩ := ClassBody.encode_of_limited (b := augmented) (by decide +kernel)
  let r : ClassRegistry := { records := [("app.Counter", .ofBytes "app.Counter" bytes)] }
  let r' : ClassRegistry := { records := [("app.Counter", .ofBytes "app.Counter" bytes')] }
  have hother (bytes : Bytes) (name : String) (hname : name ≠ "app.Counter") :
      Keyed.get? [("app.Counter", ClassRecord.ofBytes "app.Counter" bytes)] name = none :=
    Keyed.get?_cons_of_ne hname _ _
  have hinjects : c.Injects e.properties r r' :=
    { declared := ⟨_, Keyed.get?_cons_self _ _ _, hbytes⟩
      augmented := ⟨augmented, rfl, _, Keyed.get?_cons_self _ _ _, hbytes'⟩
      others := fun name hname => (hother bytes name hname).trans (hother bytes' name hname).symm
      silent := fun name hname b hdefined => by
        rw [ClassRegistry.definition, ClassRegistry.body, hother bytes name hname] at hdefined
        cases hdefined
      loaded := fun _ => .none
      annotations := rfl }
  have hcalls : ∀ call ∈ calls, call.Avoids (c.injectedRefs e.properties) := by
    simp [calls, MachineCall.Avoids, Value.Avoids]
  have hconservative := injection_conservative Counter.discovers hinjects
  exact ⟨Counter.discovers, r, r', hinjects, (hconservative.1 calls hcalls).1⟩

end ClassMeta

end EntityForge
