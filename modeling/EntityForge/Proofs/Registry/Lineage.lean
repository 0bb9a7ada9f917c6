import EntityForge.Proofs.Registry.Linking

/-!
Lineages. From a name the superclasses lead upwards through the registered classes; a name whose
lineage ends loads exactly if every class of it links, and what it loads is the classes of the
lineage put behind each other. Which classes were loaded before plays no part in the answer: a class
that is loaded already has a lineage of its own, and none of the names that wait for it stands in
it.
-/

namespace EntityForge

/-- The bodies of a loaded class and of the classes that it extends, from the class upwards. -/
def LoadedClass.bodies : LoadedClass → List ClassBody
  | ⟨body, none, _⟩ => [body]
  | ⟨body, some parent, _⟩ => body :: parent.bodies

/-- Links a class behind those that come after it, the last of which has no superclass. -/
def LoadedClass.linkAll (b : ClassBody) : List ClassBody → Except Failure LoadedClass
  | [] => link b none
  | above :: rest => do
    let parent ← linkAll above rest
    link b (some parent)

/-- The fields of the instances of a class, each with the class that declares it: those without the
static flag, of the topmost class first, and in each class in the order of its declarations. -/
def LoadedClass.layout (chain : List ClassBody) : List (String × FieldDef) :=
  chain.reverse.flatMap fun b =>
    (b.fields.filter fun f => f.flags &&& 0x0008 = 0).map fun f => (b.name, f)

namespace LoadedClass

variable {b : ClassBody} {above : List ClassBody} {c : LoadedClass}

theorem instanceFields_eq (b : ClassBody) :
    instanceFields b = b.fields.filter fun f => f.flags &&& 0x0008 = 0 := by
  unfold instanceFields AccessFlag.within AccessFlag.isStatic
  simp

theorem layout_cons (b : ClassBody) (chain : List ClassBody) :
    layout (b :: chain) = layout chain ++ (instanceFields b).map fun f => (b.name, f) := by
  simp [layout, instanceFields_eq]

/-- The slots of the fields that a class declares are those of its own layout. -/
theorem layout_own {own : List FieldSlot}
    (hown : (instanceFields b).mapM (slotOf b.name) = .ok own) :
    List.Forall₂ (fun entry slot => ClassRegistry.Lays entry.1 entry.2 slot)
      ((instanceFields b).map fun f => (b.name, f)) own :=
  List.forall₂_map_left_iff.mpr (ClassRegistry.ownSlots_lays hown)

/-- Classes that link form a class of all of them, with a slot for each field laid out. -/
theorem linkAll_ok (h : linkAll b above = .ok c) :
    c.bodies = b :: above ∧
      List.Forall₂ (fun entry slot => ClassRegistry.Lays entry.1 entry.2 slot) (layout (b :: above))
        c.slots := by
  induction above generalizing b c with
  | nil =>
    obtain ⟨own, hslots, heq⟩ := Checked.bind_eq_ok.mp h
    cases heq
    exact ⟨rfl, by simpa [layout, instanceFields_eq] using layout_own hslots⟩
  | cons a rest ih =>
    obtain ⟨parent, hparent, hlink⟩ := Checked.bind_eq_ok.mp h
    obtain ⟨hbodies, hinherited⟩ := ih hparent
    obtain ⟨own, hslots, heq⟩ := Checked.bind_eq_ok.mp hlink
    cases heq
    refine ⟨congrArg (b :: ·) hbodies, ?_⟩
    rw [layout_cons]
    exact List.rel_append hinherited (layout_own hslots)

/-- A class links if a slot can be laid out for each field of its instances. -/
theorem slots_total (h : ∀ f ∈ b.fields, f.flags &&& 0x0008 = 0 →
    ∃ slot, ClassRegistry.Lays b.name f slot) :
    ∃ own, (instanceFields b).mapM (slotOf b.name) = .ok own := by
  refine Checked.mapM_ok fun f hf => ?_
  obtain ⟨hmem, hinstance⟩ := List.mem_filter.mp (instanceFields_eq b ▸ hf)
  obtain ⟨slot, hlays⟩ := h f hmem (of_decide_eq_true hinstance)
  exact ⟨slot, hlays.slotOf⟩

theorem linkAll_total (b : ClassBody) (above : List ClassBody)
    (h : ∀ a ∈ b :: above, ∀ f ∈ a.fields, f.flags &&& 0x0008 = 0 →
      ∃ slot, ClassRegistry.Lays a.name f slot) :
    ∃ c, linkAll b above = .ok c := by
  obtain ⟨own, hown⟩ := slots_total (h b List.mem_cons_self)
  induction above generalizing b own with
  | nil => exact ⟨⟨b, none, [] ++ own⟩, Checked.bind_eq_ok.mpr ⟨own, hown, rfl⟩⟩
  | cons a rest ih =>
    have hrest : ∀ a' ∈ a :: rest, ∀ f ∈ a'.fields, f.flags &&& 0x0008 = 0 →
        ∃ slot, ClassRegistry.Lays a'.name f slot := fun a' ha => h a' (List.mem_cons_of_mem b ha)
    obtain ⟨above, habove⟩ := slots_total (hrest a List.mem_cons_self)
    obtain ⟨parent, hparent⟩ := ih a hrest above habove
    exact ⟨⟨b, some parent, parent.slots ++ own⟩, Checked.bind_eq_ok.mpr
      ⟨parent, hparent, Checked.bind_eq_ok.mpr ⟨own, hown, rfl⟩⟩⟩

end LoadedClass

namespace ClassRegistry

variable {records : Keyed ClassRecord} {cache : Keyed LoadedClass} {name : String} {b : ClassBody}
  {above : List ClassBody}

/-! Loading a class that is new, by what its name defines. -/

theorem loadChain_root {visiting : List String} (hnew : cache.get? name = none)
    (hmet : visiting.contains name = false) (hbody : definition records name = .ok b)
    (hroot : b.superName.filter records.contains = none) :
    (loadChain records visiting name cache).1 = LoadedClass.link b none := by
  rw [loadChain_new hnew hmet]
  simp only [hbody, hroot, linkAndKeep]
  cases LoadedClass.link b none <;> rfl

theorem loadChain_child {visiting : List String} {superName : String}
    (hnew : cache.get? name = none) (hmet : visiting.contains name = false)
    (hbody : definition records name = .ok b)
    (hsuper : b.superName.filter records.contains = some superName) :
    (loadChain records visiting name cache).1 =
      (loadChain records (name :: visiting) superName cache).1.bind fun parent =>
        LoadedClass.link b (some parent) := by
  rw [loadChain_new hnew hmet]
  simp only [hbody, hsuper]
  cases loadChain records (name :: visiting) superName cache with
  | mk result rest =>
    cases result with
    | error e => rfl
    | ok parent =>
      simp only [linkAndKeep, Except.bind]
      cases LoadedClass.link b (some parent) <;> rfl

/-- The classes that a name leads to: the one that it defines, in front of those that its superclass
leads to, if that is registered. -/
inductive Lineage (records : Keyed ClassRecord) : String → ClassBody → List ClassBody → Prop where
  | root {name : String} {b : ClassBody} (hbody : definition records name = .ok b)
      (hroot : b.superName.filter records.contains = none) : Lineage records name b []
  | child {name superName : String} {b parent : ClassBody} {above : List ClassBody}
      (hbody : definition records name = .ok b)
      (hsuper : b.superName.filter records.contains = some superName)
      (hparent : Lineage records superName parent above) : Lineage records name b (parent :: above)

namespace Lineage

theorem definition (h : Lineage records name b above) : definition records name = .ok b := by
  cases h with
  | root hbody => exact hbody
  | child hbody => exact hbody

theorem name_eq (h : Lineage records name b above) : b.name = name := by
  obtain ⟨_, _, _, hname⟩ := definition_ok_iff.mp h.definition
  exact hname

theorem unique {b' : ClassBody} {above' : List ClassBody} (h : Lineage records name b above)
    (h' : Lineage records name b' above') : b = b' ∧ above = above' := by
  induction h generalizing b' above' with
  | root hbody hroot =>
    cases h' with
    | root hbody' => exact ⟨Except.ok.inj (hbody.symm.trans hbody'), rfl⟩
    | child hbody' hsuper' =>
      cases hbody.symm.trans hbody'
      cases hroot.symm.trans hsuper'
  | child hbody hsuper _ ih =>
    cases h' with
    | root hbody' hroot' =>
      cases hbody.symm.trans hbody'
      cases hsuper.symm.trans hroot'
    | child hbody' hsuper' hparent' =>
      cases hbody.symm.trans hbody'
      cases hsuper.symm.trans hsuper'
      obtain ⟨rfl, rfl⟩ := ih hparent'
      exact ⟨rfl, rfl⟩

/-- Each class further up has a lineage, which is shorter. -/
theorem ancestor (h : Lineage records name b above) {a : ClassBody} (ha : a ∈ above) :
    ∃ rest, Lineage records a.name a rest ∧ rest.length < above.length := by
  induction h with
  | root => cases ha
  | @child name superName b parent above _ _ hparent ih =>
    rcases List.mem_cons.mp ha with rfl | ha
    · exact ⟨above, hparent.name_eq.symm ▸ hparent, Nat.lt_succ_self _⟩
    · obtain ⟨rest, hrest, hlt⟩ := ih ha
      exact ⟨rest, hrest, Nat.lt_succ_of_lt hlt⟩

/-- No name stands further up in its own lineage. -/
theorem fresh (h : Lineage records name b above) {a : ClassBody} (ha : a ∈ above) :
    a.name ≠ name := by
  rintro rfl
  obtain ⟨rest, hrest, hlt⟩ := h.ancestor ha
  obtain ⟨_, rfl⟩ := h.unique hrest
  exact absurd hlt (Nat.lt_irrefl _)

theorem nodup (h : Lineage records name b above) : ((b :: above).map (·.name)).Nodup := by
  induction h with
  | root => exact List.nodup_singleton _
  | @child name superName b parent above hbody hsuper hparent ih =>
    have hself : Lineage records name b (parent :: above) := .child hbody hsuper hparent
    rw [List.map_cons, List.nodup_cons]
    refine ⟨?_, ih⟩
    rw [hself.name_eq, List.mem_map]
    rintro ⟨a, ha, hname⟩
    exact hself.fresh ha hname

/-- A name loads what its lineage links to, if nothing is loaded yet and no class of the lineage
waits for it. -/
theorem loadChain_eq (h : Lineage records name b above) {visiting : List String}
    (hwaiting : ∀ a ∈ b :: above, a.name ∉ visiting) :
    (loadChain records visiting name []).1 = LoadedClass.linkAll b above := by
  have hmet : visiting.contains name = false := by
    simpa [h.name_eq] using hwaiting b List.mem_cons_self
  induction h generalizing visiting with
  | root hbody hroot => exact loadChain_root rfl hmet hbody hroot
  | @child name superName b parent above hbody hsuper hparent ih =>
    have hself : Lineage records name b (parent :: above) := .child hbody hsuper hparent
    have hnext : ∀ a ∈ parent :: above, a.name ∉ name :: visiting := by
      intro a ha hmem
      rcases List.mem_cons.mp hmem with heq | hmem
      · exact hself.fresh ha heq
      · exact hwaiting a (List.mem_cons_of_mem b ha) hmem
    have hmet' : (name :: visiting).contains superName = false := by
      simpa [hparent.name_eq] using hnext parent List.mem_cons_self
    rw [loadChain_child rfl hmet hbody hsuper, ih hnext hmet']
    rfl

end Lineage

/-- A class that links without any other class loaded is linked along a lineage. -/
theorem Derives.lineage {height : Nat} {c : LoadedClass} (h : Derives records [] height name c) :
    ∃ b above, Lineage records name b above ∧ LoadedClass.linkAll b above = .ok c := by
  induction h with
  | cached hcached => cases hcached
  | @root name b c _ hbody hroot hlink => exact ⟨b, [], .root hbody hroot, hlink⟩
  | @child height name superName b parent c _ hbody hsuper _ hlink ih =>
    obtain ⟨b', above, hlineage, hparent⟩ := ih
    refine ⟨b, b' :: above, .child hbody hsuper hlineage, ?_⟩
    rw [LoadedClass.linkAll, hparent]
    exact hlink

/-- Loading answers the same whichever classes are loaded already, as long as no name waits that
stands in the lineage of the one that is loaded. -/
theorem loadChain_fresh (hcache : Extends records [] cache) (visiting : List String) (name : String)
    (hwaiting : ∀ b above, Lineage records name b above → ∀ a ∈ b :: above, a.name ∉ visiting) :
    (loadChain records visiting name cache).1 = (loadChain records visiting name []).1 := by
  -- What waits for a superclass keeps out of its lineage, too.
  have hnext {visiting : List String} {name superName : String} {b : ClassBody}
      (hwaiting : ∀ b above, Lineage records name b above → ∀ a ∈ b :: above, a.name ∉ visiting)
      (hbody : definition records name = .ok b)
      (hsuper : b.superName.filter records.contains = some superName) (parent : ClassBody)
      (above : List ClassBody) (hparent : Lineage records superName parent above) :
      ∀ a ∈ parent :: above, a.name ∉ name :: visiting := by
    have hself : Lineage records name b (parent :: above) := .child hbody hsuper hparent
    intro a ha hmem
    rcases List.mem_cons.mp hmem with heq | hmem
    · exact hself.fresh ha heq
    · exact hwaiting b _ hself a (List.mem_cons_of_mem b ha) hmem
  fun_induction loadChain records visiting name cache with
  | case1 visiting name c hcached =>
    obtain ⟨_, hderives⟩ := hcache.linked name c hcached
    obtain ⟨b, above, hlineage, hlink⟩ := hderives.lineage
    rw [hlineage.loadChain_eq (hwaiting b above hlineage), hlink]
  | case2 visiting name hnew hmet =>
    rw [loadChain]
    simp only [Keyed.get?_nil, hmet, dite_true]
  | case3 visiting name hnew hmet e hbody =>
    rw [loadChain_new rfl (by simpa using hmet), hbody]
  | case4 visiting name hnew hmet b hbody finish hroot =>
    rw [loadChain_root rfl (by simpa using hmet) hbody hroot]
    simp only [finish]
    cases LoadedClass.link b none <;> rfl
  | case5 visiting name hnew hmet b hbody superName hsuper e cache' hrun ih =>
    rw [loadChain_child rfl (by simpa using hmet) hbody hsuper,
      ← ih (hnext hwaiting hbody hsuper), hrun]
    rfl
  | case6 visiting name hnew hmet b hbody finish superName hsuper parent cache' hrun ih =>
    rw [loadChain_child rfl (by simpa using hmet) hbody hsuper,
      ← ih (hnext hwaiting hbody hsuper), hrun]
    simp only [finish, Except.bind]
    cases LoadedClass.link b (some parent) <;> rfl

/-- The classes from a name upwards, as far as they are registered: each is what is stored under its
name, names the next one as its superclass, and has a slot for every field of its instances; the
last one has no registered superclass, and no name comes twice. -/
structure Ancestry (records : Keyed ClassRecord) (name : String) (chain : List ClassBody) :
    Prop where
  first : chain.head?.map (·.name) = some name
  stored : ∀ b ∈ chain, ∃ record, records.get? b.name = some record ∧
    ClassBody.decode record.bytes = .ok b
  extending : chain.IsChain fun b parent => b.superName = some parent.name
  last : ∀ b, chain.getLast? = some b → b.superName.filter records.contains = none
  distinct : (chain.map (·.name)).Nodup
  links : ∀ b ∈ chain, ∀ f ∈ b.fields, f.flags &&& 0x0008 = 0 → ∃ slot, Lays b.name f slot

namespace Lineage

theorem stored (h : Lineage records name b above) {a : ClassBody} (ha : a ∈ b :: above) :
    ∃ record, records.get? a.name = some record ∧ ClassBody.decode record.bytes = .ok a := by
  have hself : ∃ name rest, Lineage records name a rest := by
    rcases List.mem_cons.mp ha with rfl | ha
    · exact ⟨name, above, h⟩
    · obtain ⟨rest, hrest, _⟩ := h.ancestor ha
      exact ⟨a.name, rest, hrest⟩
  obtain ⟨name, rest, hrest⟩ := hself
  obtain ⟨record, hrecord, hdecode, rfl⟩ := definition_ok_iff.mp hrest.definition
  exact ⟨record, hrecord, hdecode⟩

theorem extending (h : Lineage records name b above) :
    (b :: above).IsChain fun b parent => b.superName = some parent.name := by
  induction h with
  | root => exact .singleton _
  | child _ hsuper hparent ih =>
    refine .cons_cons ?_ ih
    rw [hparent.name_eq]
    exact (Option.filter_eq_some_iff.mp hsuper).1

theorem last (h : Lineage records name b above) :
    ∀ a, (b :: above).getLast? = some a → a.superName.filter records.contains = none := by
  induction h with
  | root _ hroot =>
    rintro a heq
    cases heq
    exact hroot
  | child _ _ _ ih =>
    intro a hlast
    rw [List.getLast?_cons_cons] at hlast
    exact ih a hlast

/-- A lineage all of whose classes link is the ancestry of its name. -/
theorem ancestry (h : Lineage records name b above) {c : LoadedClass}
    (hlink : LoadedClass.linkAll b above = .ok c) : Ancestry records name (b :: above) where
  first := congrArg some h.name_eq
  stored _ := h.stored
  extending := h.extending
  last := h.last
  distinct := h.nodup
  links a ha f hf hinstance := by
    have hmem : (a.name, f) ∈ LoadedClass.layout (b :: above) :=
      List.mem_flatMap.mpr ⟨a, List.mem_reverse.mpr ha,
        List.mem_map_of_mem (List.mem_filter.mpr ⟨hf, decide_eq_true hinstance⟩)⟩
    obtain ⟨slot, _, hslot⟩ := Checked.forall₂_mem_left (LoadedClass.linkAll_ok hlink).2 hmem
    exact ⟨slot, hslot⟩

/-- Stored classes that extend each other, up to one whose superclass is not registered. -/
theorem of_stored (b : ClassBody) (above : List ClassBody)
    (hstored : ∀ a ∈ b :: above, ∃ record, records.get? a.name = some record ∧
      ClassBody.decode record.bytes = .ok a)
    (hextending : (b :: above).IsChain fun b parent => b.superName = some parent.name)
    (hlast : ∀ a, (b :: above).getLast? = some a → a.superName.filter records.contains = none) :
    Lineage records b.name b above := by
  have hdefined : ∀ a ∈ b :: above, ClassRegistry.definition records a.name = .ok a := by
    intro a ha
    obtain ⟨record, hrecord, hdecode⟩ := hstored a ha
    exact definition_ok_iff.mpr ⟨record, hrecord, hdecode, rfl⟩
  induction above generalizing b with
  | nil => exact .root (hdefined b List.mem_cons_self) (hlast b rfl)
  | cons parent rest ih =>
    obtain ⟨hsuper, hrest⟩ := List.isChain_cons_cons.mp hextending
    have hup : ∀ a ∈ parent :: rest, a ∈ b :: parent :: rest := fun _ => List.mem_cons_of_mem b
    have hparent : ClassRegistry.definition records parent.name = .ok parent :=
      hdefined parent (hup parent List.mem_cons_self)
    refine .child (hdefined b List.mem_cons_self) ?_
      (ih parent (fun a ha => hstored a (hup a ha)) hrest ?_ fun a ha => hdefined a (hup a ha))
    · exact Option.filter_eq_some_iff.mpr ⟨hsuper, contains_of_definition hparent⟩
    · intro a ha
      exact hlast a (by rw [List.getLast?_cons_cons, ha])

end Lineage

/-- Where nothing is loaded, exactly the names with an ancestry load, and what they load is the
classes of it, with their slots in the order of the layout. -/
theorem load_unloaded {r : ClassRegistry} (hfresh : r.loaded = []) (name : String) :
    ((∃ c, (r.load name).1 = .ok c) ↔ ∃ chain, Ancestry r.records name chain) ∧
      ∀ c, (r.load name).1 = .ok c → Ancestry r.records name c.bodies ∧
        List.Forall₂ (fun entry slot => Lays entry.1 entry.2 slot)
          (LoadedClass.layout c.bodies) c.slots := by
  have hloads : ∀ c, (r.load name).1 = .ok c → Ancestry r.records name c.bodies ∧
      List.Forall₂ (fun entry slot => Lays entry.1 entry.2 slot)
        (LoadedClass.layout c.bodies) c.slots := by
    intro c hload
    obtain ⟨_, hderives⟩ := load_ok_iff.mp hload
    obtain ⟨b, above, hlineage, hlink⟩ := (hfresh ▸ hderives).lineage
    obtain ⟨hbodies, hslots⟩ := LoadedClass.linkAll_ok hlink
    rw [hbodies]
    exact ⟨hlineage.ancestry hlink, hslots⟩
  refine ⟨⟨fun ⟨c, hload⟩ => ⟨c.bodies, (hloads c hload).1⟩, ?_⟩, hloads⟩
  rintro ⟨chain, h⟩
  cases chain with
  | nil => cases h.first
  | cons b above =>
    obtain rfl : b.name = name := Option.some.inj h.first
    obtain ⟨c, hlink⟩ := LoadedClass.linkAll_total b above h.links
    have hlineage := Lineage.of_stored b above h.stored h.extending h.last
    refine ⟨c, ?_⟩
    rw [← hlink, ← hlineage.loadChain_eq fun _ _ => List.not_mem_nil, ← hfresh]
    rfl

/-- The registry after names were loaded one after the other, each with or without success. -/
def afterLoads (r : ClassRegistry) (names : List String) : ClassRegistry :=
  names.foldl (fun r name => (r.load name).2) r

theorem afterLoads_later (r : ClassRegistry) (names : List String) :
    r.Later (r.afterLoads names) := by
  induction names generalizing r with
  | nil => exact .refl r
  | cons name names ih => exact (load_later r name).trans (ih _)

/-- Whatever was loaded before, a name loads what it would load first: it answers exactly if it has
an ancestry, and then the classes of the ancestry with one slot for each of their fields without the
static flag, in the order of the layout. -/
theorem load_history (records : Keyed ClassRecord) (annotations : AnnotationRegistry)
    (history : List String) (name : String) :
    let first : ClassRegistry := { records, annotations }
    let outcome := ((first.afterLoads history).load name).1
    outcome = (first.load name).1 ∧
      ((∃ c, outcome = .ok c) ↔ ∃ chain, Ancestry records name chain) ∧
      ∀ c, outcome = .ok c → Ancestry records name c.bodies ∧
        List.Forall₂ (fun entry slot => Lays entry.1 entry.2 slot)
          (LoadedClass.layout c.bodies) c.slots := by
  intro first outcome
  have hlater : first.Later (first.afterLoads history) := afterLoads_later first history
  have hsame : outcome = (first.load name).1 := by
    have hrecords : (first.afterLoads history).records = records := hlater.records
    show (loadChain (first.afterLoads history).records [] name _).1 = _
    rw [hrecords, loadChain_fresh hlater.loaded [] name fun _ _ _ _ _ => List.not_mem_nil]
    rfl
  rw [hsame]
  exact ⟨rfl, load_unloaded rfl name⟩

end ClassRegistry

end EntityForge
