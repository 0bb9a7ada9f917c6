import EntityForge.Proofs.Registry.Lineage

/-!
Ancestors of a loaded class. The slots of a class are those at the front of every class that is
linked behind it, so a slot keeps its place; and a name finds the same slot in both, unless a class
in between declares a field of that name again.
-/

namespace EntityForge.LoadedClass

variable {c d parent : LoadedClass} {below : List ClassBody} {name : String}

/-- A class stands above another one, or is it. Below it are the bodies of the other class and of
those in between. -/
inductive Above (c : LoadedClass) : List ClassBody → LoadedClass → Prop where
  | self : Above c [] c
  | child {below : List ClassBody} {d parent : LoadedClass} (hsuper : d.superclass = some parent)
      (hparent : Above c below parent) : Above c (d.body :: below) d

/-- Some of the classes declare a field of a name for their instances. -/
def Declares (classes : List ClassBody) (name : String) : Prop :=
  ∃ b ∈ classes, ∃ f ∈ instanceFields b, f.name = name

/-- The slots of a linked class are those that its classes lay out. -/
theorem Linked.layout (h : c.Linked) :
    List.Forall₂ (fun entry slot => ClassRegistry.Lays entry.1 entry.2 slot) (layout c.bodies)
      c.slots := by
  induction h with
  | @link b parent c _ _ hlink ih =>
    obtain ⟨own, hown, heq⟩ := Checked.bind_eq_ok.mp hlink
    cases heq
    cases parent with
    | none => simpa [bodies, LoadedClass.layout, instanceFields_eq] using layout_own hown
    | some p =>
      rw [bodies, layout_cons]
      exact List.rel_append (ih p rfl) (layout_own hown)

theorem Linked.superclass (h : c.Linked) (hsuper : c.superclass = some parent) : parent.Linked := by
  cases h with
  | link _ hparent hlink =>
    obtain ⟨own, _, heq⟩ := Checked.bind_eq_ok.mp hlink
    cases heq
    exact hparent _ hsuper

theorem slots_child (h : d.Linked) (hsuper : d.superclass = some parent) :
    ∃ own, d.slots = parent.slots ++ own ∧
      List.Forall₂ (ClassRegistry.Lays d.body.name) (instanceFields d.body) own := by
  cases h with
  | link _ _ hlink =>
    obtain ⟨own, hown, heq⟩ := Checked.bind_eq_ok.mp hlink
    cases heq
    cases hsuper
    exact ⟨own, rfl, ClassRegistry.ownSlots_lays hown⟩

namespace Above

/-- Behind the slots of the class come those of the fields that the classes below it declare. -/
theorem slots (h : c.Above below d) (hd : d.Linked) :
    ∃ more, d.slots = c.slots ++ more ∧ ∀ slot ∈ more, Declares below slot.name := by
  induction h with
  | self => exact ⟨[], (List.append_nil _).symm, nofun⟩
  | @child below d parent hsuper _ ih =>
    obtain ⟨more, hslots, hmore⟩ := ih (hd.superclass hsuper)
    obtain ⟨own, hbehind, hlays⟩ := slots_child hd hsuper
    refine ⟨more ++ own, by rw [hbehind, hslots, List.append_assoc], ?_⟩
    intro slot hslot
    rcases List.mem_append.mp hslot with hinherited | hown
    · obtain ⟨b, hb, hfield⟩ := hmore slot hinherited
      exact ⟨b, List.mem_cons_of_mem _ hb, hfield⟩
    · obtain ⟨f, hf, hlay⟩ := Checked.forall₂_mem_right hlays hown
      exact ⟨d.body, List.mem_cons_self, f, hf, hlay.name.symm⟩

/-- A slot keeps its place. -/
theorem slot_at (h : c.Above below d) (hd : d.Linked) {i : Nat} {slot : FieldSlot}
    (hslot : c.slots[i]? = some slot) : d.slots[i]? = some slot := by
  obtain ⟨more, hslots, _⟩ := h.slots hd
  have hbound := (List.getElem?_eq_some_iff.mp hslot).1
  rw [hslots, List.getElem?_append_left hbound, hslot]

/-- A name that no class below declares again finds the same slot. -/
theorem slot?_eq (h : c.Above below d) (hd : d.Linked) (hname : ¬ Declares below name) :
    d.slot? name = c.slot? name := by
  obtain ⟨more, hslots, hmore⟩ := h.slots hd
  exact slot?_append hslots fun slot hslot heq => hname (heq ▸ hmore slot hslot)

theorem isSubclassOf (h : c.Above below d) : d.isSubclassOf c.name = true := by
  induction h with
  | self => exact c.isSubclassOf_self
  | @child below d parent hsuper _ ih =>
    obtain ⟨b, _, slots⟩ := d
    cases hsuper
    rw [LoadedClass.isSubclassOf, ih, Bool.or_true]

/-- A method that the class has is inherited or overridden. -/
theorem findMethod? (h : c.Above below d) {descriptor : String} {method : MethodDef}
    (hfound : c.findMethod? name descriptor = some method) :
    ∃ method', d.findMethod? name descriptor = some method' := by
  induction h with
  | self => exact ⟨method, hfound⟩
  | @child below d parent hsuper _ ih =>
    obtain ⟨inherited, hinherited⟩ := ih
    obtain ⟨b, _, slots⟩ := d
    cases hsuper
    rw [LoadedClass.findMethod?, hinherited]
    cases b.method? name descriptor with
    | none => exact ⟨inherited, rfl⟩
    | some own => exact ⟨own, rfl⟩

end Above

/-- A slot that a name finds in a linked class is that of a field of this name which the class or
one above it declares. -/
theorem Linked.field (h : c.Linked) {i : Nat} {slot : FieldSlot} (hfound : c.slot? name = some i)
    (hslot : c.slots[i]? = some slot) :
    ∃ b ∈ c.bodies, ∃ f ∈ instanceFields b, f.name = name ∧ slotOf b.name f = .ok slot := by
  obtain ⟨slot', hslot', rfl⟩ := slot?_some hfound
  cases hslot.symm.trans hslot'
  obtain ⟨⟨owner, f⟩, hentry, hlays⟩ :=
    Checked.forall₂_mem_right h.layout (List.mem_of_getElem? hslot)
  obtain ⟨b, hb, hf⟩ := List.mem_flatMap.mp hentry
  obtain ⟨f, hf, heq⟩ := List.mem_map.mp hf
  cases heq
  rw [← instanceFields_eq] at hf
  exact ⟨b, List.mem_reverse.mp hb, f, hf, hlays.name.symm, hlays.slotOf⟩

end EntityForge.LoadedClass

namespace EntityForge.ClassRegistry

variable {records : Keyed ClassRecord} {cache : Keyed LoadedClass}

/-- The superclass of a loaded class is loaded under its own name. -/
def Closed (cache : Keyed LoadedClass) : Prop :=
  ∀ name c parent, cache.get? name = some c → c.superclass = some parent →
    cache.get? parent.name = some parent

theorem Closed.above (h : Closed cache) {name : String} {a c : LoadedClass} {below : List ClassBody}
    (habove : a.Above below c) (hget : cache.get? name = some c) (hname : c.name = name) :
    cache.get? a.name = some a := by
  induction habove generalizing name with
  | self => rw [hname, hget]
  | child hsuper _ ih => exact ih (h _ _ _ hget hsuper) rfl

/-- Putting aside a new class whose superclass is there. -/
private theorem Closed.insert {cache' : Keyed LoadedClass} {name : String} {c : LoadedClass}
    (h : Closed cache') (hext : Extends records cache cache')
    (hlinks : LinksIn records cache name c)
    (hparent : ∀ parent, c.superclass = some parent → cache'.get? parent.name = some parent) :
    Closed (cache'.insert name c) := by
  -- A class that is there under the name is the same one, as a name links to one class only.
  have hkept : ∀ other d, cache'.get? other = some d →
      (cache'.insert name c).get? other = some d := by
    intro other d hget
    by_cases heq : other = name
    · subst heq
      rw [Keyed.get?_insert_self, (hext.linked other d hget).unique hlinks]
    · rw [Keyed.get?_insert_of_ne heq, hget]
  intro other d parent hget hsuper
  by_cases heq : other = name
  · subst heq
    rw [Keyed.get?_insert_self] at hget
    cases hget
    exact hkept _ _ (hparent parent hsuper)
  · rw [Keyed.get?_insert_of_ne heq] at hget
    exact hkept _ _ (h other d parent hget hsuper)

theorem loadChain_closed (hlinked : AllLinked cache) (h : Closed cache) (visiting : List String)
    (name : String) : Closed (loadChain records visiting name cache).2 := by
  fun_induction loadChain records visiting name cache with
  | case1 | case2 | case3 => exact h
  | case4 visiting name hnew _ b hbody finish hroot =>
    dsimp only [finish]
    split
    · exact h
    · next c hlink =>
      obtain ⟨own, _, heq⟩ := Checked.bind_eq_ok.mp hlink
      refine h.insert (.refl records cache) ⟨0, .root hnew hbody hroot hlink⟩ ?_
      cases heq
      intro parent hparent
      cases hparent
  | case5 visiting name _ _ b _ superName _ e cache' hrun ih =>
    rw [hrun] at ih
    exact ih
  | case6 visiting name hnew _ b hbody finish superName hsuper parent cache' hrun ih =>
    obtain ⟨hext, hok⟩ : Extends records cache (loadChain records _ superName cache).2 ∧ _ :=
      loadChain_links (name :: visiting) superName cache
    rw [hrun] at ih hext hok
    obtain ⟨⟨height, hderives⟩, hget⟩ := hok parent rfl
    dsimp only [finish]
    split
    · exact ih
    · next c hlink =>
      obtain ⟨own, _, heq⟩ := Checked.bind_eq_ok.mp hlink
      refine Closed.insert ih hext ⟨height + 1, .child hnew hbody hsuper hderives hlink⟩ ?_
      cases heq
      intro p hp
      cases hp
      rw [(hderives.linked hlinked).2, hget]

theorem Reachable.closed {r : ClassRegistry} (h : r.Reachable) : Closed r.loaded := by
  induction h with
  | new annotations => exact nofun
  | register _ hstored ih => rwa [(register_keeps hstored).2.1]
  | registerAll _ hstored ih => rwa [(registerAll_keeps hstored).2.1]
  | load hreach name ih => exact loadChain_closed hreach.allLinked ih [] name

end EntityForge.ClassRegistry
