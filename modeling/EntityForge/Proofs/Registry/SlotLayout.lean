import EntityForge.Proofs.Machine.BoundFields
import EntityForge.Proofs.Registry.Sharing
import Mathlib.Order.Lattice.Nat

/-!
Slots of loaded classes. A load may stand alone or race others: what it answers was linked behind its
superclass, class by class. So the slots of every class further up are the first ones of the class,
a name finds the last slot that has it, and each slot starts with a value of its type.
-/

namespace EntityForge

namespace SharedRegistry

variable {s : SharedRegistry} {requested name : String} {waiting : List (String × ClassBody)}
  {b : ClassBody} {place : Nat} {task : RegistryTask}

/-- Every class in memory was linked, those that lost a race included. -/
def AllLinked (s : SharedRegistry) : Prop := ∀ cell ∈ s.memory, cell.type.Linked

theorem AllLinked.classAt (h : s.AllLinked) (hplace : place < s.memory.length) :
    (s.classAt place).Linked := by
  rw [SharedRegistry.classAt, List.getElem?_eq_getElem hplace]
  exact h _ (List.getElem_mem hplace)

theorem link_allLinked (h : s.AllLinked)
    (hbody : ClassRegistry.definition s.records name = .ok b) {parent : Option Nat}
    (hparent : ∀ place, parent = some place → place < s.memory.length) :
    (s.link requested waiting name b parent).1.AllLinked := by
  unfold link
  cases hlink : LoadedClass.link b (parent.map s.classAt) with
  | error e => exact h
  | ok c =>
    have hlinked : c.Linked := by
      refine .link (ClassRegistry.definition_wellFormed hbody) ?_ hlink
      intro p hp
      obtain ⟨place, hplace, rfl⟩ := Option.map_eq_some_iff.mp hp
      exact h.classAt (hparent place hplace)
    intro cell hcell
    rcases List.mem_append.mp hcell with hold | hnew
    · exact h cell hold
    · obtain rfl := List.mem_singleton.mp hnew
      exact hlinked

theorem resume_allLinked (h : s.AllLinked) (hawaits : Awaits s requested waiting name)
    (hplace : place < s.memory.length) : (s.resume requested waiting place).1.AllLinked := by
  cases hawaits with
  | asked => exact h
  | waits _ hbody _ =>
    refine link_allLinked h hbody ?_
    rintro _ ⟨⟩
    exact hplace

theorem Sound.place_lt (hsound : s.Sound) (hloaded : s.loaded.get? name = some place) :
    place < s.memory.length :=
  hsound.places _ (Keyed.mem_of_get? hloaded)

/-- A section of a load leaves linked classes only. -/
theorem advance_allLinked (h : s.AllLinked) (hsound : s.Sound) {point : LoadPoint}
    (hawaits : Awaits s requested waiting point.name) (hknows : s.Knows point) :
    (s.advance requested waiting point).1.AllLinked := by
  unfold advance
  cases point with
  | first name =>
    dsimp only
    cases hloaded : s.loaded.get? name with
    | some place => exact resume_allLinked h hawaits (hsound.place_lt hloaded)
    | none => exact h
  | cache name =>
    dsimp only
    cases hloaded : s.loaded.get? name with
    | some place => exact resume_allLinked h hawaits (hsound.place_lt hloaded)
    | none =>
      dsimp only
      split <;> exact h
  | record name =>
    dsimp only
    cases hbody : ClassRegistry.definition s.records name with
    | error e => exact h
    | ok b =>
      dsimp only
      cases b.superName with
      | none => exact link_allLinked h hbody nofun
      | some superName => exact h
  | superclass name b superName =>
    dsimp only
    split
    · exact h
    · exact link_allLinked h hknows.1 nofun
  | publish name place =>
    obtain ⟨cell, hcell, _⟩ := hknows
    dsimp only
    cases hloaded : s.loaded.get? name with
    | some other => exact resume_allLinked h hawaits (hsound.place_lt hloaded)
    | none =>
      exact resume_allLinked h (hawaits.grows (Grows.publish hloaded place))
        (List.getElem?_eq_some_iff.mp hcell).1

theorem act_allLinked (h : s.AllLinked) (hsound : s.Sound) (hfair : s.Fair task) :
    (s.act task).1.AllLinked := by
  unfold act
  cases task with
  | register _ | registerAll _ => exact h
  | load requested waiting point => exact advance_allLinked h hsound hfair.1 hfair.2
  | registered _ | registeredAll _ | loaded _ _ => exact h

/-- Whatever calls race, every class that they link is linked from what is stored. -/
theorem run_allLinked (annotations : AnnotationRegistry) (calls : List RegistryCall)
    (schedule : List Nat) : ((start annotations calls).run act schedule).shared.AllLinked := by
  have hboth : ((start annotations calls).run act schedule).Holds Sound Fair ∧
      ((start annotations calls).run act schedule).shared.AllLinked := by
    refine Crew.run_keeps (I := fun crew => crew.Holds Sound Fair ∧ crew.shared.AllLinked) ?_
      ⟨start_holds annotations calls, nofun⟩ schedule
    rintro crew i task htask ⟨hholds, hlinked⟩
    have hfair := hholds.parties task (List.mem_of_getElem? htask)
    have hsteps := act_steps hholds.shared hfair
    refine ⟨hholds.turn htask hsteps.sound hsteps.fair fun _ hother => hother.grows hsteps.grows, ?_⟩
    rw [Crew.turn_some htask]
    exact act_allLinked hlinked hholds.shared hfair
  exact hboth.2

end SharedRegistry

namespace LoadedClass

variable {c : LoadedClass} {name : String}

/-- A class that a load answered, alone or while other calls took turns with it. -/
inductive Loaded : LoadedClass → Prop where
  | alone {r : ClassRegistry} {name : String} {c : LoadedClass} (hreach : r.Reachable)
      (hload : (r.load name).1 = .ok c) : Loaded c
  | racing {annotations : AnnotationRegistry} {calls : List RegistryCall} {schedule : List Nat}
      {crew : Crew SharedRegistry RegistryTask} {i : Nat} {name : String} {place : Nat}
      (hrun : (SharedRegistry.start annotations calls).run SharedRegistry.act schedule = crew)
      (hanswer : crew.parties[i]? = some (.loaded name (.ok place))) :
      Loaded (crew.shared.classAt place)

theorem Loaded.linked (h : c.Loaded) : c.Linked := by
  cases h with
  | @alone r name c hreach hload =>
    obtain ⟨_, hderives⟩ := ClassRegistry.load_ok_iff.mp hload
    exact (hderives.linked hreach.allLinked).1
  | @racing annotations calls schedule _ i name place hrun hanswer =>
    subst hrun
    have hlinked := SharedRegistry.run_allLinked annotations calls schedule
    have hholds := (SharedRegistry.run_grows
      (SharedRegistry.start_holds annotations calls) schedule).2
    have hloaded : SharedRegistry.Fair _ (.loaded name (.ok place)) :=
      hholds.parties _ (List.mem_of_getElem? hanswer)
    exact hlinked.classAt (hholds.shared.place_lt hloaded)

def placesOf (c : LoadedClass) (name : String) : Set Nat :=
  {i | ∃ slot, c.slots[i]? = some slot ∧ slot.name = name}

theorem slot?_of_isGreatest {i : Nat} (h : IsGreatest (c.placesOf name) i) :
    c.slot? name = some i := by
  obtain ⟨⟨slot, hslot, rfl⟩, hlast⟩ := h
  obtain ⟨hbound, rfl⟩ := List.getElem?_eq_some_iff.mp hslot
  have hsplit : c.slots = c.slots.take i ++ c.slots[i] :: c.slots.drop (i + 1) := by
    rw [← List.drop_eq_getElem_cons hbound, List.take_append_drop]
  have hafter : ∀ slot ∈ c.slots.drop (i + 1), slot.name ≠ c.slots[i].name := by
    intro slot hslot hname
    obtain ⟨j, hj⟩ := List.getElem?_of_mem hslot
    rw [List.getElem?_drop] at hj
    exact absurd (hlast ⟨slot, hj, hname⟩) (by omega)
  rw [slot?_last hsplit hafter, List.length_take, Nat.min_eq_left (Nat.le_of_lt hbound)]

/-- A name finds the last slot that has it. -/
theorem slot?_eq_some_iff {i : Nat} :
    c.slot? name = some i ↔ IsGreatest (c.placesOf name) i := by
  refine ⟨fun h => ?_, slot?_of_isGreatest⟩
  have hsome : (c.placesOf name).Nonempty := ⟨i, slot?_some h⟩
  have hbounded : BddAbove (c.placesOf name) := by
    refine ⟨c.slots.length, ?_⟩
    rintro j ⟨slot, hslot, _⟩
    exact Nat.le_of_lt (List.getElem?_eq_some_iff.mp hslot).1
  have hgreatest : IsGreatest (c.placesOf name) (sSup (c.placesOf name)) :=
    ⟨Nat.sSup_mem hsome hbounded, fun _ hj => le_csSup hbounded hj⟩
  have hsame := h.symm.trans (slot?_of_isGreatest hgreatest)
  rwa [Option.some.inj hsame]

/-- Slots keep their places. The slots of every class that a loaded class extends are its first ones,
so that each of them stands at its place with its owner, name, type and initial value; a name finds
the last slot that has it; and each slot starts with a value that fits its type. -/
theorem slots_stable (h : c.Loaded) :
    (∀ (a : LoadedClass) below, a.Above below c → a.slots <+: c.slots ∧
      ∀ (i : Nat) slot, a.slots[i]? = some slot → c.slots[i]? = some slot) ∧
    (∀ name i, c.slot? name = some i ↔ IsGreatest (c.placesOf name) i) ∧
    ∀ slot ∈ c.slots, ∀ m : Machine, m.fits slot.initial slot.type = true := by
  have hlinked := h.linked
  refine ⟨fun a below habove => ⟨?_, fun i slot => habove.slot_at hlinked⟩,
    fun _ _ => slot?_eq_some_iff, fun slot hslot m => (hlinked.slot hslot).2 m.isInstance⟩
  obtain ⟨more, hslots, _⟩ := habove.slots hlinked
  exact ⟨more, hslots.symm⟩

open Redeclared in
/-- A field that is declared again takes a slot behind the inherited ones, and its name finds the new
slot only. -/
theorem slots_stable_redeclared :
    ∃ r : ClassRegistry, r.Reachable ∧ (r.load "app.Heir").1 = .ok heirClass ∧
      baseClass.Above [heir] heirClass ∧ baseClass.slots <+: heirClass.slots ∧
      heirClass.slots[0]? = some (numberSlot "app.Base" "count" 1) ∧
      IsGreatest (heirClass.placesOf "count") 2 ∧
      ∀ slot ∈ heirClass.slots, ∀ m : Machine, m.fits slot.initial slot.type = true := by
  obtain ⟨r, hreach, _, hheir, _⟩ := registry_exists
  have hload := ClassRegistry.load_ok_iff.mpr hheir
  obtain ⟨hinherited, hfinds, hfits⟩ := slots_stable (.alone hreach hload)
  obtain ⟨hfirst, hkept⟩ := hinherited baseClass [heir] base_above
  exact ⟨r, hreach, hload, base_above, hfirst, hkept 0 _ rfl,
    (hfinds "count" 2).mp (by decide +kernel), hfits⟩

end LoadedClass

end EntityForge
