import EntityForge.Proofs.Registry.Slots

/-!
Classes that look alike. Two registries may define a class with different members and yet with the
same head: its name, its interfaces and its superclass. What is linked from such definitions is an
instance of the same classes, and it has the same slots, unless it extends a class whose own slots
differ.
-/

namespace EntityForge

/-- Two bodies with the same name, interfaces and superclass. -/
structure ClassBody.SameHead (b b' : ClassBody) : Prop where
  name : b.name = b'.name
  interfaces : b.interfaces = b'.interfaces
  superName : b.superName = b'.superName

theorem ClassBody.SameHead.refl (b : ClassBody) : b.SameHead b := ⟨rfl, rfl, rfl⟩

/-- Two linked classes with the same heads all along their chains of superclasses. -/
inductive LoadedClass.SameFace : LoadedClass → LoadedClass → Prop where
  | root {b b' : ClassBody} {slots slots' : List FieldSlot} (hhead : b.SameHead b') :
      SameFace ⟨b, none, slots⟩ ⟨b', none, slots'⟩
  | child {b b' : ClassBody} {parent parent' : LoadedClass} {slots slots' : List FieldSlot}
      (hhead : b.SameHead b') (hparent : SameFace parent parent') :
      SameFace ⟨b, some parent, slots⟩ ⟨b', some parent', slots'⟩

namespace LoadedClass

theorem SameFace.refl : (c : LoadedClass) → c.SameFace c
  | ⟨b, none, _⟩ => .root (.refl b)
  | ⟨b, some parent, _⟩ => .child (.refl b) (refl parent)

/-- Classes that look alike are instances of the same classes. -/
theorem SameFace.isSubclassOf {c c' : LoadedClass} (h : c.SameFace c') (target : String) :
    c.isSubclassOf target = c'.isSubclassOf target := by
  induction h with
  | root hhead =>
    unfold LoadedClass.isSubclassOf
    rw [hhead.name, hhead.interfaces, hhead.superName]
  | child hhead _ ih =>
    unfold LoadedClass.isSubclassOf
    rw [hhead.name, hhead.interfaces, ih]

end LoadedClass

namespace ClassRegistry

variable {records records' : Keyed ClassRecord} {cache : Keyed LoadedClass}

/-- Two registries that know the same names and define each of them with the same head; the slots of
a class differ only if it is one of some exceptions. -/
structure Alike (records records' : Keyed ClassRecord) (exceptions : List String) : Prop where
  contains : ∀ name, records.contains name = records'.contains name
  heads : ∀ name b b', definition records name = .ok b → definition records' name = .ok b' →
    b.SameHead b'
  slots : ∀ name b b', definition records name = .ok b → definition records' name = .ok b' →
    name ∈ exceptions ∨ ownSlots b = ownSlots b'

private theorem definition_name {name : String} {b : ClassBody}
    (h : definition records name = .ok b) : b.name = name := by
  obtain ⟨decoded, _, h⟩ := Checked.bind_eq_ok.mp h
  split at h
  · next hname =>
    cases h
    exact hname
  · cases h

private theorem link_slots {b b' : ClassBody} {parent parent' : Option LoadedClass}
    {c c' : LoadedClass} (hlink : LoadedClass.link b parent = .ok c)
    (hlink' : LoadedClass.link b' parent' = .ok c') (hown : ownSlots b = ownSlots b')
    (hparent : parent.elim [] (·.slots) = parent'.elim [] (·.slots)) : c.slots = c'.slots := by
  obtain ⟨own, hslots, heq⟩ := Checked.bind_eq_ok.mp hlink
  obtain ⟨own', hslots', heq'⟩ := Checked.bind_eq_ok.mp hlink'
  cases heq
  cases heq'
  have hsame : own = own' := by
    have hok := hslots.symm.trans (hown.trans hslots')
    exact Except.ok.inj hok
  simp only [hparent, hsame]

private theorem link_ok {b : ClassBody} {parent : Option LoadedClass} {c : LoadedClass}
    (h : LoadedClass.link b parent = .ok c) : c = ⟨b, parent, c.slots⟩ := by
  obtain ⟨own, _, heq⟩ := Checked.bind_eq_ok.mp h
  cases heq
  rfl

/-- What is linked in registries that are alike looks alike. -/
theorem Alike.derives {exceptions : List String} (halike : Alike records records' exceptions)
    {n n' : Nat} {name : String} {c c' : LoadedClass} (h : Derives records cache n name c)
    (h' : Derives records' cache n' name c') :
    c.SameFace c' ∧
      ((∀ a ∈ exceptions, c.isSubclassOf a = false) → c.slots = c'.slots) := by
  induction h generalizing n' c' with
  | cached hcached =>
    obtain ⟨_, rfl⟩ := h'.of_cached hcached
    exact ⟨.refl _, fun _ => rfl⟩
  | @root name b c hnew hbody hroot hlink =>
    cases h' with
    | cached hcached' => cases hcached'.symm.trans hnew
    | @root _ b' _ _ hbody' _ hlink' =>
      have hhead := halike.heads _ _ _ hbody hbody'
      refine ⟨?_, ?_⟩
      · rw [link_ok hlink, link_ok hlink']
        exact .root hhead
      · intro hnone
        refine link_slots hlink hlink' ((halike.slots _ _ _ hbody hbody').resolve_left ?_) rfl
        intro hmem
        have hname : c.body.name = name := by
          rw [link_ok hlink]
          exact definition_name hbody
        have hself := c.isSubclassOf_self
        rw [hname, hnone _ hmem] at hself
        cases hself
    | @child _ _ superName b' _ _ _ hbody' hsuper' =>
      have hhead := halike.heads _ _ _ hbody hbody'
      rw [hhead.superName, show records.contains = records'.contains from
        funext halike.contains] at hroot
      cases hroot.symm.trans hsuper'
  | @child height name superName b parent c hnew hbody hsuper hparent hlink ih =>
    cases h' with
    | cached hcached' => cases hcached'.symm.trans hnew
    | @root _ b' _ _ hbody' hroot' =>
      have hhead := halike.heads _ _ _ hbody hbody'
      rw [hhead.superName, show records.contains = records'.contains from
        funext halike.contains] at hsuper
      cases hsuper.symm.trans hroot'
    | @child _ _ superName' b' parent' _ _ hbody' hsuper' hparent' hlink' =>
      have hhead := halike.heads _ _ _ hbody hbody'
      rw [hhead.superName, show records.contains = records'.contains from
        funext halike.contains] at hsuper
      cases hsuper.symm.trans hsuper'
      obtain ⟨hface, hslots⟩ := ih hparent'
      refine ⟨?_, ?_⟩
      · rw [link_ok hlink, link_ok hlink']
        exact .child hhead hface
      · intro hnone
        rw [link_ok hlink] at hnone
        have hparts : ∀ a ∈ exceptions, b.name ≠ a ∧ parent.isSubclassOf a = false := by
          intro a ha
          have hnot := hnone a ha
          unfold LoadedClass.isSubclassOf at hnot
          simp only [Bool.or_eq_false_iff, decide_eq_false_iff_not] at hnot
          exact ⟨hnot.1.1, hnot.2⟩
        refine link_slots hlink hlink' ((halike.slots _ _ _ hbody hbody').resolve_left ?_)
          (hslots fun a ha => (hparts a ha).2)
        intro hmem
        exact (hparts _ hmem).1 (definition_name hbody)

end ClassRegistry

end EntityForge
