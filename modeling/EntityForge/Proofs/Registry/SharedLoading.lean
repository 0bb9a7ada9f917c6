import EntityForge.Proofs.Registry.Sharing

/-!
Loading alone. A load between whose sections nobody else has a turn answers the class that loading in
one go answers, and leaves the same registry. So the sections are those of loading.
-/

namespace EntityForge

/-- The classes that wait for another one are not loaded by loading it. -/
theorem ClassRegistry.loadChain_waiting (records : Keyed ClassRecord) (visiting : List String)
    (name : String) (cache : Keyed LoadedClass) {other : String} (hwaits : other ∈ visiting)
    (hnew : cache.get? other = none) :
    (loadChain records visiting name cache).2.get? other = none := by
  have hinsert : ∀ {name : String} {visiting : List String} {cache : Keyed LoadedClass}
      (c : LoadedClass), other ∈ visiting → ¬ visiting.contains name = true →
      cache.get? other = none → (cache.insert name c).get? other = none := by
    intro name visiting cache c hwaits hname hnew
    have hne : other ≠ name := by
      rintro rfl
      exact hname (List.contains_iff_mem.mpr hwaits)
    rw [Keyed.get?_insert_of_ne hne, hnew]
  fun_induction loadChain records visiting name cache with
  | case1 | case2 | case3 => exact hnew
  | case4 visiting name _ hname b _ finish _ =>
    dsimp only [finish]
    split
    · exact hnew
    · exact hinsert _ hwaits hname hnew
  | case5 visiting name _ _ b _ superName _ e cache' hrun ih =>
    rw [hrun] at ih
    exact ih (List.mem_cons_of_mem name hwaits)
  | case6 visiting name _ hname b _ finish superName _ parent cache' hrun ih =>
    rw [hrun] at ih
    have hstill := ih (List.mem_cons_of_mem name hwaits)
    dsimp only [finish]
    split
    · exact hstill
    · exact hinsert _ hwaits hname hstill

namespace SharedRegistry

variable {s s' : SharedRegistry} {requested name : String} {waiting : List (String × ClassBody)}
  {b : ClassBody} {place : Nat}
  {before after : SharedRegistry × RegistryTask}
  {outcome : Except Failure LoadedClass × Keyed LoadedClass}

/-- Sections of one call, one after the other. -/
abbrev Leads : SharedRegistry × RegistryTask → SharedRegistry × RegistryTask → Prop :=
  Relation.ReflTransGen fun before after => before.1.act before.2 = after

/-- Sections of one call are turns of the caller. -/
theorem Leads.run (h : Leads before after) (crew : Crew SharedRegistry RegistryTask) {i : Nat}
    (hshared : crew.shared = before.1) (htask : crew.parties[i]? = some before.2) :
    ∃ turns, crew.run act (List.replicate turns i) = ⟨after.1, crew.parties.set i after.2⟩ := by
  induction h with
  | refl =>
    refine ⟨0, ?_⟩
    obtain ⟨shared, parties⟩ := crew
    obtain ⟨hbound, hget⟩ := List.getElem?_eq_some_iff.mp htask
    change Crew.mk shared parties = _
    rw [← hget, List.set_getElem_self, ← hshared]
  | tail _ hact ih =>
    obtain ⟨turns, hturns⟩ := ih
    have hbound : i < crew.parties.length := (List.getElem?_eq_some_iff.mp htask).1
    refine ⟨turns + 1, ?_⟩
    rw [List.replicate_succ', Crew.run_append, hturns]
    change Crew.turn act _ i = _
    rw [Crew.turn_some (List.getElem?_set_self hbound), hact, List.set_set]

/-- The sections of a load come to what loading in one go comes to: the same classes are loaded, and
either both fail, or the load goes on with the place of the class. -/
def ComesTo (s : SharedRegistry) (requested : String) (waiting : List (String × ClassBody))
    (before : SharedRegistry × RegistryTask)
    (outcome : Except Failure LoadedClass × Keyed LoadedClass) : Prop :=
  ∃ s', s'.records = s.records ∧ s'.annotations = s.annotations ∧ s'.Placed ∧
    s'.view.loaded = outcome.2 ∧
    match outcome.1 with
    | .error e => Leads before (s', .loaded requested (.error e))
    | .ok c => ∃ place, s'.classAt place = c ∧ Leads before (s'.resume requested waiting place)

/-- Sections in front of others. -/
theorem ComesTo.trans {middle : SharedRegistry × RegistryTask} (hleads : Leads before middle)
    (hrecords : s'.records = s.records) (hannotations : s'.annotations = s.annotations)
    (h : ComesTo s' requested waiting middle outcome) :
    ComesTo s requested waiting before outcome := by
  obtain ⟨last, hrecords', hannotations', hplaced, hview, hlast⟩ := h
  refine ⟨last, hrecords'.trans hrecords, hannotations'.trans hannotations, hplaced, hview, ?_⟩
  split
  · next heq =>
    rw [heq] at hlast
    exact hleads.trans hlast
  · next heq =>
    rw [heq] at hlast
    obtain ⟨place, hclass, hlast⟩ := hlast
    exact ⟨place, hclass, hleads.trans hlast⟩

theorem ComesTo.head {middle : SharedRegistry × RegistryTask}
    (hact : before.1.act before.2 = middle) (h : ComesTo s requested waiting middle outcome) :
    ComesTo s requested waiting before outcome := .trans (.single hact) rfl rfl h

theorem loaded_view (s : SharedRegistry) (name : String) :
    s.view.loaded.get? name = (s.loaded.get? name).map s.classAt := Keyed.get?_map _ _ _

theorem loaded_none (h : s.view.loaded.get? name = none) : s.loaded.get? name = none := by
  rwa [loaded_view, Option.map_eq_none_iff] at h

theorem classAt_remember (cell : ClassCell) (h : place < s.memory.length) :
    ({ s with memory := s.memory ++ [cell] } : SharedRegistry).classAt place = s.classAt place := by
  unfold classAt
  rw [List.getElem?_append_left h]

/-- Linking a class that is not loaded, and publishing it. -/
theorem link_comesTo (hplaced : s.Placed) (hnew : s.view.loaded.get? name = none)
    (parent : Option Nat) :
    ComesTo s requested waiting (s.link requested waiting name b parent)
      (match LoadedClass.link b (parent.map s.classAt) with
        | .error e => (.error e, s.view.loaded)
        | .ok c => (.ok c, s.view.loaded.insert name c)) := by
  unfold link
  cases LoadedClass.link b (parent.map s.classAt) with
  | error e => exact ⟨s, rfl, rfl, hplaced, rfl, .refl⟩
  | ok c =>
    let linked : SharedRegistry := { s with memory := s.memory ++ [⟨c, parent⟩] }
    let published : SharedRegistry :=
      { linked with loaded := s.loaded.insert name s.memory.length }
    have hlast : published.classAt s.memory.length = c := by
      unfold classAt
      rw [List.getElem?_concat_length]
      rfl
    refine ⟨published, rfl, rfl, ?_, ?_, s.memory.length, hlast, .single ?_⟩
    · intro entry hentry
      have hlength : published.memory.length = s.memory.length + 1 := List.length_append
      rcases Keyed.mem_insert hentry with rfl | hentry
      · rw [hlength]
        exact Nat.lt_succ_self _
      · rw [hlength]
        exact Nat.lt_succ_of_lt (hplaced entry hentry)
    · have hinsert : published.view.loaded = _ :=
        Keyed.map_insert published.classAt name s.memory.length s.loaded
      rw [hinsert, hlast]
      refine congrArg (Keyed.insert name c) (List.map_congr_left fun entry hentry => ?_)
      exact congrArg _ (classAt_remember _ (hplaced entry hentry))
    · change linked.advance requested waiting (.publish name s.memory.length) = _
      have hnone : s.loaded.get? name = none := loaded_none hnew
      have hnone : linked.loaded.get? name = none := hnone
      simp only [advance, hnone]
      rfl

/-- A class that is not there is read from its record, unless it waits for itself. -/
theorem act_cache (requested : String) (hnew : s.view.loaded.get? name = none)
    (hmet : ¬ (waiting.map (·.1)).contains name = true) :
    s.act (.load requested waiting (.cache name)) =
      (s, .load requested waiting (.record name)) := by
  have hnone := loaded_none hnew
  simp only [act, advance, hnone, if_neg hmet]

/-- The superclass that a record names is looked for. -/
theorem act_record {records : Keyed ClassRecord} {superName : String} (requested : String)
    (hrecords : s.records = records) (hbody : ClassRegistry.definition records name = .ok b)
    (hsuper : b.superName = some superName) :
    s.act (.load requested waiting (.record name)) =
      (s, .load requested waiting (.superclass name b superName)) := by
  simp only [act, advance, hrecords, hbody, hsuper]

/-- A superclass that is registered is loaded first. -/
theorem act_superclass {records : Keyed ClassRecord} {superName : String} (requested : String)
    (hrecords : s.records = records) (hbody : ClassRegistry.definition records name = .ok b)
    (hsuper : b.superName.filter records.contains = some superName)
    (hnew : s.view.loaded.get? name = none) (hmet : ¬ (waiting.map (·.1)).contains name = true) :
    Leads (s, .load requested waiting (.cache name))
      (s, .load requested ((name, b) :: waiting) (.cache superName)) := by
  obtain ⟨hnamed, hcontains⟩ := Option.filter_eq_some_iff.mp hsuper
  refine .head (act_cache requested hnew hmet)
    (.head (act_record requested hrecords hbody hnamed) (.single ?_))
  simp only [act, advance, hrecords, hcontains, if_true]

/-- The sections of a load follow the chain of superclasses as loading in one go does. -/
theorem chain_comesTo (s : SharedRegistry) (hplaced : s.Placed) (requested : String)
    (waiting : List (String × ClassBody)) (name : String) :
    ComesTo s requested waiting (s, .load requested waiting (.cache name))
      (ClassRegistry.loadChain s.records (waiting.map (·.1)) name s.view.loaded) := by
  generalize hrecords : s.records = records
  generalize hvisiting : waiting.map (·.1) = visiting
  generalize hcache : s.view.loaded = cache
  fun_induction ClassRegistry.loadChain records visiting name cache generalizing s waiting with
  | case1 visiting name c hcached =>
    rw [← hcache, loaded_view] at hcached
    obtain ⟨place, hplace, hclass⟩ := Option.map_eq_some_iff.mp hcached
    refine ⟨s, rfl, rfl, hplaced, hcache, place, hclass, .single ?_⟩
    simp only [act, advance, hplace]
  | case2 visiting name hnew hmet =>
    have hnone := loaded_none (hcache ▸ hnew)
    refine ⟨s, rfl, rfl, hplaced, hcache, .single ?_⟩
    simp only [act, advance, hnone, hvisiting, hmet, if_true]
  | case3 visiting name hnew hmet e hbody =>
    have hread := act_cache requested (hcache ▸ hnew) (hvisiting ▸ hmet)
    refine ⟨s, rfl, rfl, hplaced, hcache, .head hread (.single ?_)⟩
    simp only [act, advance, hrecords, hbody]
  | case4 visiting name hnew hmet b hbody finish hroot =>
    have hread := act_cache requested (hcache ▸ hnew) (hvisiting ▸ hmet)
    have hlinked : ComesTo s requested waiting (s.link requested waiting name b none)
        (finish none cache) := by
      rw [← hcache]
      exact link_comesTo hplaced (hcache ▸ hnew) none
    refine .head hread ?_
    cases hsuper : b.superName with
    | none =>
      refine .head ?_ hlinked
      simp only [act, advance, hrecords, hbody, hsuper]
    | some superName =>
      have houtside : records.contains superName = false := by
        rw [hsuper] at hroot
        simpa [Option.filter] using hroot
      refine .head (act_record requested hrecords hbody hsuper) (.head ?_ hlinked)
      simp only [act, advance, hrecords, houtside, Bool.false_eq_true, if_false]
  | case5 visiting name hnew hmet b hbody superName hsuper e cache' hrun ih =>
    have hread := act_superclass requested hrecords hbody hsuper (hcache ▸ hnew) (hvisiting ▸ hmet)
    have hchain := ih s hplaced ((name, b) :: waiting) hrecords (congrArg _ hvisiting) hcache
    rw [hrun] at hchain
    obtain ⟨s', hrecords', hannotations', hplaced', hview', hleads⟩ := hchain
    exact ⟨s', hrecords', hannotations', hplaced', hview', hread.trans hleads⟩
  | case6 visiting name hnew hmet b hbody finish superName hsuper parent cache' hrun ih =>
    have hread := act_superclass requested hrecords hbody hsuper (hcache ▸ hnew) (hvisiting ▸ hmet)
    have hchain := ih s hplaced ((name, b) :: waiting) hrecords (congrArg _ hvisiting) hcache
    rw [hrun] at hchain
    obtain ⟨s', hrecords', hannotations', hplaced', hview', place, hclass, hleads⟩ := hchain
    have hview' : s'.view.loaded = cache' := hview'
    -- The class is still not there: it was waiting while its superclass was loaded.
    have hstill : s'.view.loaded.get? name = none := by
      have hwaits := ClassRegistry.loadChain_waiting records (name :: visiting) superName cache
        List.mem_cons_self hnew
      rwa [hrun, ← hview'] at hwaits
    have hlinked : ComesTo s' requested waiting (s'.link requested waiting name b (some place))
        (finish (some parent) cache') := by
      rw [← hview', ← hclass]
      exact link_comesTo hplaced' hstill (some place)
    exact .trans (hread.trans hleads) hrecords' hannotations' hlinked

/-- A load that begins looks for its class once more than the others of the chain. -/
theorem begin_comesTo (hplaced : s.Placed) (name : String) :
    ComesTo s name [] (s, RegistryCall.task (.load name))
      (ClassRegistry.loadChain s.records [] name s.view.loaded) := by
  cases hloaded : s.loaded.get? name with
  | none =>
    refine .head ?_ (chain_comesTo s hplaced name [] name)
    simp only [RegistryCall.task, act, advance, hloaded]
  | some place =>
    have hcached : s.view.loaded.get? name = some (s.classAt place) := by
      rw [loaded_view, hloaded, Option.map_some]
    have hchain : ClassRegistry.loadChain s.records [] name s.view.loaded =
        (.ok (s.classAt place), s.view.loaded) := by
      unfold ClassRegistry.loadChain
      simp only [hcached]
    rw [hchain]
    refine ⟨s, rfl, rfl, hplaced, rfl, place, rfl, .single ?_⟩
    simp only [RegistryCall.task, act, advance, hloaded]

/-- A load between whose sections nobody else has a turn answers the class that loading in one go
answers, and leaves the same registry. -/
theorem load_alone {crew : Crew SharedRegistry RegistryTask} (hplaced : crew.shared.Placed) {i : Nat}
    (htask : crew.parties[i]? = some (RegistryCall.task (.load name))) :
    ∃ turns s' result, crew.run act (List.replicate turns i) =
        ⟨s', crew.parties.set i (.loaded name result)⟩ ∧
      crew.shared.view.load name = (result.map s'.classAt, s'.view) := by
  obtain ⟨s', hrecords, hannotations, _, hview, hleads⟩ := begin_comesTo hplaced name
  have hload : crew.shared.view.load name =
      ((ClassRegistry.loadChain crew.shared.records [] name crew.shared.view.loaded).1, s'.view) := by
    have hleft : s'.view = { crew.shared.view with loaded := s'.view.loaded } := by
      change ClassRegistry.mk s'.records _ s'.annotations = ClassRegistry.mk _ _ _
      rw [hrecords, hannotations]
      rfl
    rw [hleft, hview]
    rfl
  split at hleads
  · next e heq =>
    obtain ⟨turns, hturns⟩ := hleads.run crew rfl htask
    exact ⟨turns, s', .error e, hturns, by rw [hload, heq]; rfl⟩
  · next c heq =>
    obtain ⟨place, hclass, hleads⟩ := hleads
    obtain ⟨turns, hturns⟩ := hleads.run crew rfl htask
    exact ⟨turns, s', .ok place, hturns, by rw [hload, heq, ← hclass]; rfl⟩

end SharedRegistry

end EntityForge
