import EntityForge.Registry.Store

/-!
What loading answers. A class links if its chain of superclasses ends in a class that is loaded
already or has no registered superclass; the chain is a derivation, and its height is what the check
for cycles relies on. Loading answers exactly the classes that link, and the classes that it puts
aside on the way change nothing about what links.
-/

namespace EntityForge.ClassRegistry

variable {records : Keyed ClassRecord} {cache cache' : Keyed LoadedClass}

def linkAndKeep (name : String) (b : ClassBody) (parent : Option LoadedClass)
    (cache : Keyed LoadedClass) : Except Failure LoadedClass × Keyed LoadedClass :=
  match LoadedClass.link b parent with
  | .error e => (.error e, cache)
  | .ok c => (.ok c, cache.insert name c)

/-- Loading a class that is new, behind its superclass if that is registered. -/
theorem loadChain_new {visiting : List String} {name : String} (hnew : cache.get? name = none)
    (hmet : visiting.contains name = false) :
    loadChain records visiting name cache =
      match definition records name with
      | .error e => (.error e, cache)
      | .ok b =>
        match b.superName.filter records.contains with
        | none => linkAndKeep name b none cache
        | some superName =>
          match loadChain records (name :: visiting) superName cache with
          | (.error e, cache) => (.error e, cache)
          | (.ok parent, cache) => linkAndKeep name b (some parent) cache := by
  rw [loadChain]
  simp only [hnew, hmet, Bool.false_eq_true, dite_false]
  split
  · next hbody => rw [hbody]
  · next hbody =>
    rw [hbody]
    rfl

/-- A name links to a class over a number of superclasses that are not loaded yet. -/
inductive Derives (records : Keyed ClassRecord) (cache : Keyed LoadedClass) :
    Nat → String → LoadedClass → Prop where
  | cached {name : String} {c : LoadedClass} (hcached : cache.get? name = some c) :
      Derives records cache 0 name c
  | root {name : String} {b : ClassBody} {c : LoadedClass} (hnew : cache.get? name = none)
      (hbody : definition records name = .ok b) (hroot : b.superName.filter records.contains = none)
      (hlink : LoadedClass.link b none = .ok c) : Derives records cache 0 name c
  | child {height : Nat} {name superName : String} {b : ClassBody} {parent c : LoadedClass}
      (hnew : cache.get? name = none) (hbody : definition records name = .ok b)
      (hsuper : b.superName.filter records.contains = some superName)
      (hparent : Derives records cache height superName parent)
      (hlink : LoadedClass.link b (some parent) = .ok c) : Derives records cache (height + 1) name c

namespace Derives

variable {n n' : Nat} {name superName : String} {b : ClassBody} {c c' d : LoadedClass}

/-! What a name derives by follows from what is known of it. -/

theorem of_cached (h : Derives records cache n name c) (hcached : cache.get? name = some d) :
    n = 0 ∧ c = d := by
  cases h with
  | cached hcached' =>
    cases hcached.symm.trans hcached'
    exact ⟨rfl, rfl⟩
  | root hnew => cases hcached.symm.trans hnew
  | child hnew => cases hcached.symm.trans hnew

theorem of_root (h : Derives records cache n name c) (hnew : cache.get? name = none)
    (hbody : definition records name = .ok b)
    (hroot : b.superName.filter records.contains = none) :
    n = 0 ∧ LoadedClass.link b none = .ok c := by
  cases h with
  | cached hcached => cases hnew.symm.trans hcached
  | root _ hbody' _ hlink =>
    cases hbody.symm.trans hbody'
    exact ⟨rfl, hlink⟩
  | child _ hbody' hsuper =>
    cases hbody.symm.trans hbody'
    cases hroot.symm.trans hsuper

theorem of_child (h : Derives records cache n name c) (hnew : cache.get? name = none)
    (hbody : definition records name = .ok b)
    (hsuper : b.superName.filter records.contains = some superName) :
    ∃ height parent, n = height + 1 ∧ Derives records cache height superName parent ∧
      LoadedClass.link b (some parent) = .ok c := by
  cases h with
  | cached hcached => cases hnew.symm.trans hcached
  | root _ hbody' hroot =>
    cases hbody.symm.trans hbody'
    cases hsuper.symm.trans hroot
  | child _ hbody' hsuper' hparent hlink =>
    cases hbody.symm.trans hbody'
    cases hsuper.symm.trans hsuper'
    exact ⟨_, _, rfl, hparent, hlink⟩

/-- A class that derives and is new has a definition. -/
theorem not_error {e : Failure} (h : Derives records cache n name c)
    (hnew : cache.get? name = none) : definition records name ≠ .error e := by
  intro hbody
  cases h with
  | cached hcached => cases hnew.symm.trans hcached
  | root _ hbody' => cases hbody.symm.trans hbody'
  | child _ hbody' => cases hbody.symm.trans hbody'

/-- A name has one class, reached over one number of superclasses. -/
theorem unique (h : Derives records cache n name c) (h' : Derives records cache n' name c') :
    n = n' ∧ c = c' := by
  induction h generalizing n' c' with
  | cached hcached =>
    obtain ⟨rfl, rfl⟩ := h'.of_cached hcached
    exact ⟨rfl, rfl⟩
  | root hnew hbody hroot hlink =>
    obtain ⟨rfl, hlink'⟩ := h'.of_root hnew hbody hroot
    cases hlink.symm.trans hlink'
    exact ⟨rfl, rfl⟩
  | child hnew hbody hsuper _ hlink ih =>
    obtain ⟨_, _, rfl, hparent', hlink'⟩ := h'.of_child hnew hbody hsuper
    obtain ⟨rfl, rfl⟩ := ih hparent'
    cases hlink.symm.trans hlink'
    exact ⟨rfl, rfl⟩

end Derives

def LinksIn (records : Keyed ClassRecord) (cache : Keyed LoadedClass) (name : String)
    (c : LoadedClass) : Prop :=
  ∃ height, Derives records cache height name c

/-- More classes are loaded, all of which linked before. -/
structure Extends (records : Keyed ClassRecord) (cache cache' : Keyed LoadedClass) : Prop where
  keeps : ∀ name c, cache.get? name = some c → cache'.get? name = some c
  linked : ∀ name c, cache'.get? name = some c → LinksIn records cache name c

namespace LinksIn

variable {name : String} {c c' : LoadedClass}

theorem unique (h : LinksIn records cache name c) (h' : LinksIn records cache name c') :
    c = c' := by
  obtain ⟨_, hderives⟩ := h
  obtain ⟨_, hderives'⟩ := h'
  exact (hderives.unique hderives').2

/-- What links with more classes loaded linked before. -/
theorem of_extends (hext : Extends records cache cache') (h : LinksIn records cache' name c) :
    LinksIn records cache name c := by
  obtain ⟨height, hderives⟩ := h
  have hnone : ∀ {n}, cache'.get? n = none → cache.get? n = none := by
    intro n hnew
    cases hget : cache.get? n with
    | none => rfl
    | some d => cases hnew.symm.trans (hext.keeps n d hget)
  induction hderives with
  | cached hcached => exact hext.linked _ _ hcached
  | root hnew hbody hroot hlink => exact ⟨0, .root (hnone hnew) hbody hroot hlink⟩
  | child hnew hbody hsuper _ hlink ih =>
    obtain ⟨height, hparent⟩ := ih
    exact ⟨height + 1, .child (hnone hnew) hbody hsuper hparent hlink⟩

/-- What linked before links with more classes loaded. -/
theorem extend (hext : Extends records cache cache') (h : LinksIn records cache name c) :
    LinksIn records cache' name c := by
  obtain ⟨height, hderives⟩ := h
  have hcached : ∀ {n d e}, cache'.get? n = some e → LinksIn records cache n d →
      LinksIn records cache' n d := by
    intro n d e hget hlinks
    have heq := (hext.linked n e hget).unique hlinks
    exact ⟨0, .cached (heq ▸ hget)⟩
  induction hderives with
  | @cached name c hget => exact ⟨0, .cached (hext.keeps name c hget)⟩
  | @root name b c hnew hbody hroot hlink =>
    cases hget : cache'.get? name with
    | none => exact ⟨0, .root hget hbody hroot hlink⟩
    | some d => exact hcached hget ⟨0, .root hnew hbody hroot hlink⟩
  | @child height name superName b parent c hnew hbody hsuper hparent hlink ih =>
    cases hget : cache'.get? name with
    | none =>
      obtain ⟨height', hparent'⟩ := ih
      exact ⟨height' + 1, .child hget hbody hsuper hparent' hlink⟩
    | some d => exact hcached hget ⟨height + 1, .child hnew hbody hsuper hparent hlink⟩

end LinksIn

namespace Extends

theorem refl (records : Keyed ClassRecord) (cache : Keyed LoadedClass) :
    Extends records cache cache :=
  ⟨fun _ _ h => h, fun _ _ h => ⟨0, .cached h⟩⟩

theorem trans {cache'' : Keyed LoadedClass} (h : Extends records cache cache')
    (h' : Extends records cache' cache'') : Extends records cache cache'' :=
  ⟨fun name c hget => h'.keeps name c (h.keeps name c hget),
   fun name c hget => (h'.linked name c hget).of_extends h⟩

/-- Putting aside a new class that links. -/
theorem insert {name : String} {c : LoadedClass} (h : Extends records cache cache')
    (hnew : cache.get? name = none) (hlinks : LinksIn records cache name c) :
    Extends records cache (cache'.insert name c) := by
  constructor
  · intro other d hget
    have hne : other ≠ name := by
      rintro rfl
      cases hnew.symm.trans hget
    rw [Keyed.get?_insert_of_ne hne]
    exact h.keeps other d hget
  · intro other d hget
    by_cases heq : other = name
    · subst heq
      rw [Keyed.get?_insert_self] at hget
      cases hget
      exact hlinks
    · rw [Keyed.get?_insert_of_ne heq] at hget
      exact h.linked other d hget

end Extends

/-- Whatever loading answers, it has only put aside classes that link; a class that it answers is
among them. -/
theorem loadChain_links (visiting : List String) (name : String) (cache : Keyed LoadedClass) :
    Extends records cache (loadChain records visiting name cache).2 ∧
      ∀ c, (loadChain records visiting name cache).1 = .ok c →
        LinksIn records cache name c ∧
          (loadChain records visiting name cache).2.get? name = some c := by
  fun_induction loadChain records visiting name cache with
  | case1 visiting name d hcached =>
    refine ⟨.refl records cache, ?_⟩
    intro c hc
    cases hc
    exact ⟨⟨0, .cached hcached⟩, hcached⟩
  | case2 | case3 =>
    refine ⟨.refl records _, ?_⟩
    intro c hc
    cases hc
  | case4 visiting name hnew _ b hbody finish hroot =>
    dsimp only [finish]
    split
    · refine ⟨.refl records cache, ?_⟩
      intro c hc
      cases hc
    · next d hlink =>
      have hlinks : LinksIn records cache name d := ⟨0, .root hnew hbody hroot hlink⟩
      refine ⟨(Extends.refl records cache).insert hnew hlinks, ?_⟩
      intro c hc
      cases hc
      exact ⟨hlinks, Keyed.get?_insert_self _ _ _⟩
  | case5 visiting name hnew _ b hbody superName hsuper e cache' hrun ih =>
    rw [hrun] at ih
    refine ⟨ih.1, ?_⟩
    intro c hc
    cases hc
  | case6 visiting name hnew _ b hbody finish superName hsuper parent cache' hrun ih =>
    rw [hrun] at ih
    obtain ⟨hext, hok⟩ := ih
    obtain ⟨⟨height, hparent⟩, _⟩ := hok parent rfl
    dsimp only [finish]
    split
    · refine ⟨hext, ?_⟩
      intro c hc
      cases hc
    · next d hlink =>
      have hlinks : LinksIn records cache name d :=
        ⟨height + 1, .child hnew hbody hsuper hparent hlink⟩
      refine ⟨hext.insert hnew hlinks, ?_⟩
      intro c hc
      cases hc
      exact ⟨hlinks, Keyed.get?_insert_self _ _ _⟩

/-- Every name that waits for a class derives over more superclasses than the class does. -/
private def Waiting (records : Keyed ClassRecord) (cache : Keyed LoadedClass)
    (visiting : List String) (height : Nat) : Prop :=
  ∀ v ∈ visiting, ∃ n d, Derives records cache n v d ∧ height < n

/-- A class waits for its superclass with all that wait for the class. -/
private theorem Waiting.cons {visiting : List String} {name : String} {height : Nat}
    {c : LoadedClass} (h : Waiting records cache visiting (height + 1))
    (hname : Derives records cache (height + 1) name c) :
    Waiting records cache (name :: visiting) height := by
  intro v hv
  rcases List.mem_cons.mp hv with rfl | hv
  · exact ⟨height + 1, c, hname, Nat.lt_succ_self _⟩
  · obtain ⟨n, d, hd, hlt⟩ := h v hv
    exact ⟨n, d, hd, Nat.lt_of_succ_lt hlt⟩

/-- A class that links is answered, as long as every name that waits for it derives over more
superclasses than it does itself: then none of its own superclasses can be one that waits. -/
private theorem loadChain_of_derives (visiting : List String) (name : String)
    (cache : Keyed LoadedClass) {height : Nat} {c : LoadedClass}
    (h : Derives records cache height name c) (hwaiting : Waiting records cache visiting height) :
    (loadChain records visiting name cache).1 = .ok c := by
  fun_induction loadChain records visiting name cache generalizing height c with
  | case1 visiting name d hcached =>
    obtain ⟨_, rfl⟩ := h.of_cached hcached
    rfl
  | case2 visiting name hnew hmet =>
    obtain ⟨n, d, hd, hlt⟩ := hwaiting name (by simpa using hmet)
    obtain ⟨rfl, _⟩ := h.unique hd
    exact absurd hlt (Nat.lt_irrefl _)
  | case3 visiting name hnew _ e hbody => exact absurd hbody (h.not_error hnew)
  | case4 visiting name hnew _ b hbody finish =>
    rename_i hroot
    obtain ⟨_, hlink⟩ := h.of_root hnew hbody hroot
    simp only [finish, hlink]
  | case5 visiting name hnew _ b hbody superName hsuper e cache' hrun ih =>
    obtain ⟨_, _, rfl, hparent, _⟩ := h.of_child hnew hbody hsuper
    have hok := ih hparent (hwaiting.cons h)
    rw [hrun] at hok
    cases hok
  | case6 visiting name hnew _ b hbody finish superName hsuper parent cache' hrun =>
    rename_i ih
    obtain ⟨_, _, rfl, hparent, hlink⟩ := h.of_child hnew hbody hsuper
    have hok := ih hparent (hwaiting.cons h)
    rw [hrun] at hok
    cases hok
    simp only [finish, hlink]

def Links (r : ClassRegistry) (name : String) (c : LoadedClass) : Prop :=
  LinksIn r.records r.loaded name c

/-- Loading answers exactly what links. -/
theorem load_ok_iff {r : ClassRegistry} {name : String} {c : LoadedClass} :
    (r.load name).1 = .ok c ↔ r.Links name c := by
  constructor
  · intro h
    exact ((loadChain_links [] name r.loaded).2 c h).1
  · rintro ⟨height, hderives⟩
    exact loadChain_of_derives [] name r.loaded hderives nofun

def AllLoad (r : ClassRegistry) (names : List String) : Prop :=
  ∀ name ∈ names, ∃ loaded, (r.load name).1 = .ok loaded

theorem AllLoad.mono {r : ClassRegistry} {names names' : List String} (h : r.AllLoad names)
    (hsub : names' ⊆ names) : r.AllLoad names' :=
  fun name hname => h name (hsub hname)

structure Later (r r' : ClassRegistry) : Prop where
  records : r'.records = r.records
  annotations : r'.annotations = r.annotations
  loaded : Extends r.records r.loaded r'.loaded

namespace Later

variable {r r' r'' : ClassRegistry}

theorem refl (r : ClassRegistry) : r.Later r := ⟨rfl, rfl, .refl _ _⟩

theorem trans (h : r.Later r') (h' : r'.Later r'') : r.Later r'' where
  records := h'.records.trans h.records
  annotations := h'.annotations.trans h.annotations
  loaded := h.loaded.trans (h.records ▸ h'.loaded)

/-- What links does not depend on what was loaded in between. -/
theorem links_iff (h : r.Later r') {name : String} {c : LoadedClass} :
    r'.Links name c ↔ r.Links name c := by
  unfold Links
  rw [h.records]
  exact ⟨LinksIn.of_extends h.loaded, LinksIn.extend h.loaded⟩

end Later

theorem load_later (r : ClassRegistry) (name : String) : r.Later (r.load name).2 where
  records := rfl
  annotations := rfl
  loaded := (loadChain_links [] name r.loaded).1

/-- Loading a class that links answers it and keeps it. -/
theorem load_links {r : ClassRegistry} {name : String} {c : LoadedClass} (h : r.Links name c) :
    ∃ r', r.load name = (.ok c, r') ∧ r.Later r' ∧ r'.loaded.get? name = some c := by
  have hok := load_ok_iff.mpr h
  refine ⟨(r.load name).2, ?_, load_later r name, ?_⟩
  · rw [← hok]
  · exact ((loadChain_links [] name r.loaded).2 c hok).2

end EntityForge.ClassRegistry
