import EntityForge.Proofs.Class.Acceptance
import EntityForge.Proofs.Registry.Slots

/-!
Linked classes. Whatever bytes are registered, a class that loads was linked from a well-formed body,
and so was every class that it extends. Its slots start with values that fit, and every method that
is found in it is well-formed.
-/

namespace EntityForge

namespace LoadedClass

/-- A class that was linked from a well-formed body behind a class of which the same is true. -/
inductive Linked : LoadedClass → Prop where
  | link {b : ClassBody} {parent : Option LoadedClass} {c : LoadedClass} (hbody : b.WellFormed)
      (hparent : ∀ p, parent = some p → Linked p) (hlink : LoadedClass.link b parent = .ok c) :
      Linked c

variable {c : LoadedClass}

/-- The slots of a linked class have types that can be named, and values of these to start with. -/
theorem Linked.slot (h : c.Linked) {slot : FieldSlot} (hslot : slot ∈ c.slots) :
    slot.type.Denotable ∧
      ∀ isInstance, Value.fits isInstance slot.initial slot.type = true := by
  induction h with
  | @link b parent c _ _ hlink ih =>
    obtain ⟨own, hown, heq⟩ := Checked.bind_eq_ok.mp hlink
    cases heq
    rcases List.mem_append.mp hslot with hinherited | hdeclared
    · cases parent with
      | none => cases hinherited
      | some p => exact ih p rfl hinherited
    · have hlays : List.Forall₂ (ClassRegistry.Lays _) _ own := ClassRegistry.ownSlots_lays hown
      obtain ⟨f, _, hf⟩ := Checked.forall₂_mem_right hlays hdeclared
      exact ⟨Signature.parseType_denotable hf.type, hf.fits⟩

/-- A new object of a linked class has values that fit. -/
theorem Linked.initialFields (h : c.Linked) (isInstance : Nat → String → Bool) :
    List.Forall₂ (fun v (slot : FieldSlot) => Value.fits isInstance v slot.type = true)
      c.initialFields c.slots := by
  have hslots : ∀ slot ∈ c.slots, Value.fits isInstance slot.initial slot.type = true :=
    fun slot hslot => (h.slot hslot).2 isInstance
  rw [LoadedClass.initialFields, List.forall₂_map_left_iff]
  exact List.forall₂_same.mpr hslots

theorem method?_some {b : ClassBody} {name descriptor : String} {m : MethodDef}
    (h : b.method? name descriptor = some m) :
    m ∈ b.methods ∧ m.name = name ∧ m.descriptor = descriptor := by
  have hfound := List.find?_some h
  simp only [Bool.and_eq_true, decide_eq_true_eq] at hfound
  exact ⟨List.mem_of_find?_eq_some h, hfound⟩

/-- A method that is found in a linked class is well-formed, and it is the one that was looked for. -/
theorem Linked.method (h : c.Linked) {name descriptor : String} {m : MethodDef}
    (hfound : c.findMethod? name descriptor = some m) :
    m.WellFormed ∧ m.name = name ∧ m.descriptor = descriptor := by
  induction h with
  | @link b parent c hbody _ hlink ih =>
    obtain ⟨own, _, heq⟩ := Checked.bind_eq_ok.mp hlink
    cases heq
    have hown : ∀ m, b.method? name descriptor = some m →
        m.WellFormed ∧ m.name = name ∧ m.descriptor = descriptor := by
      intro m hm
      obtain ⟨hmem, hname, hdescriptor⟩ := method?_some hm
      exact ⟨hbody.methods m hmem, hname, hdescriptor⟩
    cases parent with
    | none => exact hown m hfound
    | some p =>
      unfold LoadedClass.findMethod? at hfound
      rcases Option.or_eq_some_iff.mp hfound with hdeclared | ⟨_, hinherited⟩
      · exact hown m hdeclared
      · exact ih p rfl hinherited

end LoadedClass

namespace ClassRegistry

variable {records : Keyed ClassRecord} {cache : Keyed LoadedClass} {name : String}

/-- A name is defined by the bytes that are stored under it. -/
theorem definition_ok_iff {b : ClassBody} :
    definition records name = .ok b ↔
      ∃ record, records.get? name = some record ∧ ClassBody.decode record.bytes = .ok b ∧
        b.name = name := by
  unfold definition body
  cases hrecord : records.get? name with
  | none => simp [bind, Except.bind]
  | some record =>
    cases hdecode : ClassBody.decode record.bytes with
    | error e => simp [hdecode, Except.mapError, bind, Except.bind]
    | ok decoded =>
      simp only [hdecode, Except.mapError, bind, Except.bind, Option.some.injEq, exists_eq_left',
        Except.ok.injEq]
      by_cases hname : decoded.name = name
      · rw [if_pos hname]
        constructor
        · rintro heq
          cases heq
          exact ⟨rfl, hname⟩
        · rintro ⟨rfl, _⟩
          rfl
      · rw [if_neg hname]
        constructor
        · nofun
        · rintro ⟨rfl, heq⟩
          exact absurd heq hname

theorem definition_wellFormed {b : ClassBody} (h : definition records name = .ok b) :
    b.WellFormed := by
  obtain ⟨_, _, hdecode, _⟩ := definition_ok_iff.mp h
  exact ClassBody.decode_wellFormed hdecode

/-- Loaded classes that were all linked, each under its own name. -/
def AllLinked (cache : Keyed LoadedClass) : Prop :=
  ∀ name c, cache.get? name = some c → c.Linked ∧ c.name = name

theorem Derives.linked (hcache : AllLinked cache) {height : Nat} {c : LoadedClass}
    (h : Derives records cache height name c) : c.Linked ∧ c.name = name := by
  have hnamed : ∀ {name b parent c}, definition records name = .ok b →
      LoadedClass.link b parent = .ok c → c.name = name := by
    intro name b parent c hbody hlink
    obtain ⟨own, _, heq⟩ := Checked.bind_eq_ok.mp hlink
    cases heq
    obtain ⟨_, _, _, hname⟩ := definition_ok_iff.mp hbody
    exact hname
  induction h with
  | cached hcached => exact hcache _ _ hcached
  | root _ hbody _ hlink =>
    refine ⟨.link (definition_wellFormed hbody) ?_ hlink, hnamed hbody hlink⟩
    nofun
  | child _ hbody _ _ hlink ih =>
    refine ⟨.link (definition_wellFormed hbody) ?_ hlink, hnamed hbody hlink⟩
    rintro p heq
    cases heq
    exact ih.1

theorem Later.allLinked {r r' : ClassRegistry} (h : r.Later r') (hlinked : AllLinked r.loaded) :
    AllLinked r'.loaded := by
  intro name c hget
  obtain ⟨_, hderives⟩ := h.loaded.linked name c hget
  exact hderives.linked hlinked

/-- Whatever was registered and loaded, the loaded classes were linked. -/
theorem Reachable.allLinked {r : ClassRegistry} (h : r.Reachable) : AllLinked r.loaded := by
  induction h with
  | new annotations => exact nofun
  | register _ hstored ih => rwa [(register_keeps hstored).2.1]
  | registerAll _ hstored ih => rwa [(registerAll_keeps hstored).2.1]
  | @load r _ name ih => exact (load_later r name).allLinked ih

end ClassRegistry

end EntityForge
