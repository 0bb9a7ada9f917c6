import EntityForge.Proofs.Generated.Plan

/-!
The class of an entity in any mode: its slots are those of the declared fields, its constructor does
nothing, and the readers and writers that a mode injects are the methods that their names find.
-/

namespace EntityForge

namespace GenerationMode

variable (mode : GenerationMode) {c : ClassMeta} {e : Entity}

theorem entityBody_name : (mode.entityBody c e).name = c.name := by
  unfold entityBody
  split <;> rfl

theorem entityBody_fields : (mode.entityBody c e).fields = c.compiled.fields := by
  unfold entityBody
  split <;> rfl

theorem entityBody_superName : (mode.entityBody c e).superName = c.compiled.superName := by
  unfold entityBody
  split <;> rfl

theorem entityBody_interfaces : (mode.entityBody c e).interfaces = [] := by
  unfold entityBody
  split <;> rfl

/-- The fields that instances have are the same in every mode. -/
theorem instanceFields_entityBody :
    LoadedClass.instanceFields (mode.entityBody c e) = LoadedClass.instanceFields c.compiled := by
  unfold LoadedClass.instanceFields
  rw [entityBody_fields]

theorem ownSlots_entityBody :
    ClassRegistry.ownSlots (mode.entityBody c e) = ClassRegistry.ownSlots c.compiled := by
  unfold ClassRegistry.ownSlots
  rw [instanceFields_entityBody, entityBody_name]
  rfl

end GenerationMode

namespace ClassMeta

variable {c : ClassMeta} {own : List FieldSlot}

/-- Every declared field that instances have gets a slot. -/
theorem slot_of_field (hown : ClassRegistry.ownSlots c.compiled = .ok own) {f : FieldMeta}
    (hf : f ∈ c.fields) (hinstance : f.has AccessFlag.isStatic = false) :
    ∃ slot ∈ own, slot.name = f.name ∧ Signature.parseType f.descriptor = .ok slot.type ∧
      StartsWith f.constant slot.type slot.initial := by
  have hmem : (⟨f.name, f.descriptor, f.flags, f.constant⟩ : FieldDef) ∈
      LoadedClass.instanceFields c.compiled := by
    refine List.mem_filter.mpr ⟨List.mem_map.mpr ⟨f, hf, rfl⟩, ?_⟩
    rw [FieldMeta.has] at hinstance
    rw [hinstance]
    rfl
  obtain ⟨slot, hslot, hlays⟩ :=
    Checked.forall₂_mem_left (ClassRegistry.ownSlots_lays hown) hmem
  exact ⟨slot, hslot, hlays.name, hlays.type, hlays.initial⟩

/-- The slots of a class with distinct fields have distinct names. -/
theorem ownSlots_nodup (hown : ClassRegistry.ownSlots c.compiled = .ok own)
    (hnames : (c.fields.map (·.name)).Nodup) : (own.map (·.name)).Nodup := by
  rw [ClassRegistry.ownSlots_names hown]
  have hfields : c.compiled.fields.map (·.name) = c.fields.map (·.name) := by
    simp [compiled, Function.comp_def]
  refine (hfields ▸ hnames).sublist ?_
  exact (List.filter_sublist).map _

/-- A class declares no method that a mode may inject. -/
def SparesInjected (c : ClassMeta) (properties : List Property) : Prop :=
  ∀ m ∈ c.methods, ∀ p ∈ properties,
    m.name ≠ GeneratedName.reader p.name ∧ m.name ≠ GeneratedName.writer p.name

instance (c : ClassMeta) (properties : List Property) : Decidable (c.SparesInjected properties) :=
  inferInstanceAs (Decidable (∀ m ∈ c.methods, ∀ p ∈ properties,
    m.name ≠ GeneratedName.reader p.name ∧ m.name ≠ GeneratedName.writer p.name))

private theorem reader_inj {a b : String} (h : GeneratedName.reader a = GeneratedName.reader b) :
    a = b := by
  unfold GeneratedName.reader at h
  exact String.append_right_inj _ |>.mp h

private theorem writer_inj {a b : String} (h : GeneratedName.writer a = GeneratedName.writer b) :
    a = b := by
  unfold GeneratedName.writer at h
  exact String.append_right_inj _ |>.mp h

private theorem reader_ne_writer (a b : String) :
    GeneratedName.reader a ≠ GeneratedName.writer b := by
  intro h
  have htexts := congrArg String.toList h
  simp [GeneratedName.reader, GeneratedName.writer] at htexts

/-- Nothing that is injected has the name of a constructor. -/
theorem injected_ne_constructor {className : String} {p : Property} {m : MethodDef}
    (hm : m ∈ injectedMethods className p) : m.name ≠ Construction.name := by
  intro hname
  have hhead := congrArg (fun s => s.toList.head?) hname
  rcases List.mem_cons.mp hm with rfl | hm
  · simp [MethodDef.ofCode, GeneratedName.reader, Construction.name] at hhead
  · rw [List.mem_singleton.mp hm] at hhead
    simp [MethodDef.ofCode, GeneratedName.writer, Construction.name] at hhead

private theorem find?_unique {α : Type} {items : List α} {P : α → Bool} {a : α} (ha : a ∈ items)
    (hP : P a = true) (hunique : ∀ b ∈ items, P b = true → b = a) : items.find? P = some a := by
  cases hfind : items.find? P with
  | none => exact absurd hP (List.find?_eq_none.mp hfind a ha)
  | some b => rw [hunique b (List.mem_of_find?_eq_some hfind) (List.find?_some hfind)]

/-- Where no two methods have the same name and descriptor, each declared one is found by them. -/
theorem compiled_found (hmethods : (c.methods.map fun m => (m.name, m.descriptor)).Nodup)
    {declared : MethodMeta} (hmem : declared ∈ c.methods)
    (hname : declared.name ≠ classInitializer) :
    c.compiled.method? declared.name declared.descriptor =
      some (.ofCode declared.name declared.descriptor declared.flags (c.methodCode declared)) := by
  have hkept : declared ∈ c.methods.filter fun m => m.name ≠ classInitializer :=
    List.mem_filter.mpr ⟨hmem, by simpa using hname⟩
  refine find?_unique (List.mem_map.mpr ⟨declared, hkept, rfl⟩) (by simp [MethodDef.ofCode]) ?_
  intro m hm hfound
  obtain ⟨other, hother, rfl⟩ := List.mem_map.mp hm
  rw [Bool.and_eq_true, decide_eq_true_eq, decide_eq_true_eq] at hfound
  have hsame : other = declared :=
    List.inj_on_of_nodup_map hmethods (List.mem_filter.mp hother).1 hmem
      (Prod.ext hfound.1 hfound.2)
  rw [hsame]

/-- A method of the augmented class is a declared one, or a reader or writer of a property. -/
private theorem mem_augmented {properties : List Property} {m : MethodDef}
    (h : m ∈ c.compiled.methods ++ properties.flatMap (injectedMethods c.name)) :
    (∃ declared ∈ c.methods, m.name = declared.name) ∨
    (∃ q ∈ properties, m = .ofCode (GeneratedName.reader q.name) ("()" ++ q.type.erasedDescriptor)
      injectedFlags (readCode c.name q.name)) ∨
    (∃ q ∈ properties, m = .ofCode (GeneratedName.writer q.name)
      ("(" ++ q.type.erasedDescriptor ++ ")V") injectedFlags (writeCode c.name q.name)) := by
  rcases List.mem_append.mp h with hdeclared | hinjected
  · obtain ⟨declared, hmem, rfl⟩ := List.mem_map.mp hdeclared
    exact .inl ⟨declared, (List.mem_filter.mp hmem).1, rfl⟩
  · obtain ⟨q, hq, hm⟩ := List.mem_flatMap.mp hinjected
    rcases List.mem_cons.mp hm with rfl | hm
    · exact .inr (.inl ⟨q, hq, rfl⟩)
    · rw [List.mem_singleton.mp hm]
      exact .inr (.inr ⟨q, hq, rfl⟩)

end ClassMeta

namespace GenerationMode

variable {mode : GenerationMode} {c : ClassMeta} {e : Entity} {p : Property}

theorem methods_entityBody (h : mode.augmentsEntity = true) :
    (mode.entityBody c e).methods =
      c.compiled.methods ++ e.properties.flatMap (ClassMeta.injectedMethods c.name) := by
  unfold entityBody
  rw [if_pos h]

/-- The injected reader of a property is the one that its name finds. -/
theorem reader_found (haugments : mode.augmentsEntity = true)
    (hspares : c.SparesInjected e.properties) (hp : p ∈ e.properties) :
    (mode.entityBody c e).method? (GeneratedName.reader p.name)
        ("()" ++ p.type.erasedDescriptor) =
      some (.ofCode (GeneratedName.reader p.name) ("()" ++ p.type.erasedDescriptor)
        ClassMeta.injectedFlags (ClassMeta.readCode c.name p.name)) := by
  unfold ClassBody.method?
  rw [methods_entityBody haugments]
  refine ClassMeta.find?_unique ?_ (by simp [MethodDef.ofCode]) ?_
  · refine List.mem_append_right _ (List.mem_flatMap.mpr ⟨p, hp, ?_⟩)
    exact List.mem_cons_self
  · intro m hm hfound
    rw [Bool.and_eq_true, decide_eq_true_eq, decide_eq_true_eq] at hfound
    obtain ⟨hname, hdescriptor⟩ := hfound
    rcases ClassMeta.mem_augmented hm with ⟨declared, hmem, heq⟩ | ⟨q, _, rfl⟩ | ⟨q, _, rfl⟩
    · exact absurd (heq.symm.trans hname) (hspares declared hmem p hp).1
    · rw [ClassMeta.reader_inj hname, show "()" ++ q.type.erasedDescriptor = _ from hdescriptor]
    · exact absurd hname.symm (ClassMeta.reader_ne_writer _ _)

/-- The injected writer of a property is the one that its name finds. -/
theorem writer_found (haugments : mode.augmentsEntity = true)
    (hspares : c.SparesInjected e.properties) (hp : p ∈ e.properties) :
    (mode.entityBody c e).method? (GeneratedName.writer p.name)
        ("(" ++ p.type.erasedDescriptor ++ ")V") =
      some (.ofCode (GeneratedName.writer p.name) ("(" ++ p.type.erasedDescriptor ++ ")V")
        ClassMeta.injectedFlags (ClassMeta.writeCode c.name p.name)) := by
  unfold ClassBody.method?
  rw [methods_entityBody haugments]
  refine ClassMeta.find?_unique ?_ (by simp [MethodDef.ofCode]) ?_
  · refine List.mem_append_right _ (List.mem_flatMap.mpr ⟨p, hp, ?_⟩)
    exact List.mem_cons_of_mem _ List.mem_cons_self
  · intro m hm hfound
    rw [Bool.and_eq_true, decide_eq_true_eq, decide_eq_true_eq] at hfound
    obtain ⟨hname, hdescriptor⟩ := hfound
    rcases ClassMeta.mem_augmented hm with ⟨declared, hmem, heq⟩ | ⟨q, _, rfl⟩ | ⟨q, _, rfl⟩
    · exact absurd (heq.symm.trans hname) (hspares declared hmem p hp).2
    · exact absurd hname (ClassMeta.reader_ne_writer _ _)
    · rw [ClassMeta.writer_inj hname,
        show "(" ++ q.type.erasedDescriptor ++ ")V" = _ from hdescriptor]

/-- A constructor without arguments does nothing. -/
theorem constructor_code {m : MethodDef}
    (h : (mode.entityBody c e).method? Construction.name Construction.plain = some m) :
    m.descriptor = Construction.plain ∧ m.code = [.returnVoid] := by
  have hfound := List.find?_some h
  have hmem := List.mem_of_find?_eq_some h
  rw [Bool.and_eq_true, decide_eq_true_eq, decide_eq_true_eq] at hfound
  refine ⟨hfound.2, ?_⟩
  have hcompiled : m ∈ c.compiled.methods → m.code = [.returnVoid] := by
    intro hmem
    obtain ⟨declared, _, rfl⟩ := List.mem_map.mp hmem
    exact if_pos hfound
  unfold entityBody at hmem
  split at hmem
  · rcases List.mem_append.mp hmem with hdeclared | hinjected
    · exact hcompiled hdeclared
    · obtain ⟨q, _, hm⟩ := List.mem_flatMap.mp hinjected
      exact absurd hfound.1 (ClassMeta.injected_ne_constructor hm)
  · exact hcompiled hmem

end GenerationMode

end EntityForge
