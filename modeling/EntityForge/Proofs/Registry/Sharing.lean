import EntityForge.Proofs.Concurrency.Crew
import EntityForge.Proofs.Registry.Batches
import EntityForge.Proofs.Registry.Linking

/-!
A shared registry. Callers that register and load at the same time take turns at the sections that
hold a lock: a registration is one such section, but a load lets go between looking for the class,
reading its record, looking for its superclass, and publishing what it has linked. A class stands in
memory before it is published, and what loads answer is where it stands, so that two loads answer the
same instance exactly if they answer the same place. A load that nobody disturbs does what loading
does in one go.
-/

namespace EntityForge

/-- A class in memory, and where the superclass stands that it was linked behind. -/
structure ClassCell where
  type : LoadedClass
  parent : Option Nat

/-- The records, and for each loaded name the place of its class. Nothing is taken out of the
memory; a class that lost the race to be published is garbage there. -/
structure SharedRegistry where
  records : Keyed ClassRecord := []
  loaded : Keyed Nat := []
  memory : List ClassCell := []
  annotations : AnnotationRegistry := .builtin

/-- Where a load is: the section that it enters next. -/
inductive LoadPoint where
  /-- It looks whether the class is there, before it follows any chain. -/
  | first (name : String)
  /-- It looks whether a class of the chain is there. -/
  | cache (name : String)
  /-- It reads the record of a class. -/
  | record (name : String)
  /-- It looks whether the superclass is registered. -/
  | superclass (name : String) (b : ClassBody) (superName : String)
  /-- It publishes the class that it has linked, unless another one was faster. -/
  | publish (name : String) (place : Nat)

def LoadPoint.name : LoadPoint → String
  | first name | cache name | record name | superclass name _ _ | publish name _ => name

inductive RegistryCall where
  | register (record : ClassRecord)
  | registerAll (batch : List ClassRecord)
  | load (name : String)

/-- What a caller is about to do, or what its call has answered. A load remembers the classes that
wait for their superclass, the innermost first. -/
inductive RegistryTask where
  | register (record : ClassRecord)
  | registerAll (batch : List ClassRecord)
  | load (requested : String) (waiting : List (String × ClassBody)) (point : LoadPoint)
  | registered (result : Except Failure Registration)
  | registeredAll (result : Except Failure (List Registration))
  | loaded (requested : String) (result : Except Failure Nat)

def RegistryCall.task : RegistryCall → RegistryTask
  | register record => .register record
  | registerAll batch => .registerAll batch
  | load name => .load name [] (.first name)

namespace SharedRegistry

def classAt (s : SharedRegistry) (place : Nat) : LoadedClass :=
  (s.memory[place]?.map (·.type)).getD default

/-- The registry as a caller sees it who need not know where classes stand. -/
def view (s : SharedRegistry) : ClassRegistry where
  records := s.records
  loaded := s.loaded.map fun (name, place) => (name, s.classAt place)
  annotations := s.annotations

/-- Links a class behind the superclass at a place, and goes on to publish it. -/
def link (s : SharedRegistry) (requested : String) (waiting : List (String × ClassBody))
    (name : String) (b : ClassBody) (parent : Option Nat) : SharedRegistry × RegistryTask :=
  match LoadedClass.link b (parent.map s.classAt) with
  | .error e => (s, .loaded requested (.error e))
  | .ok c =>
    ({ s with memory := s.memory ++ [⟨c, parent⟩] },
      .load requested waiting (.publish name s.memory.length))

/-- Goes on once the class at a place was found: it is what was asked for, or the superclass that
another class waits for. -/
def resume (s : SharedRegistry) (requested : String) (waiting : List (String × ClassBody))
    (place : Nat) : SharedRegistry × RegistryTask :=
  match waiting with
  | [] => (s, .loaded requested (.ok place))
  | (name, b) :: waiting => s.link requested waiting name b (some place)

/-- A section of a load that holds a lock, with what the load does before it enters the next. -/
def advance (s : SharedRegistry) (requested : String) (waiting : List (String × ClassBody)) :
    LoadPoint → SharedRegistry × RegistryTask
  | .first name =>
    match s.loaded.get? name with
    | some place => s.resume requested waiting place
    | none => (s, .load requested waiting (.cache name))
  | .cache name =>
    match s.loaded.get? name with
    | some place => s.resume requested waiting place
    | none =>
      if (waiting.map (·.1)).contains name then
        (s, .loaded requested (.error (.superclassCycle name)))
      else (s, .load requested waiting (.record name))
  | .record name =>
    match ClassRegistry.definition s.records name with
    | .error e => (s, .loaded requested (.error e))
    | .ok b =>
      match b.superName with
      | none => s.link requested waiting name b none
      | some superName => (s, .load requested waiting (.superclass name b superName))
  | .superclass name b superName =>
    if s.records.contains superName then
      (s, .load requested ((name, b) :: waiting) (.cache superName))
    else s.link requested waiting name b none
  | .publish name place =>
    match s.loaded.get? name with
    | some other => s.resume requested waiting other
    | none => ({ s with loaded := s.loaded.insert name place } : SharedRegistry).resume requested
        waiting place

/-- One section of a call. A call that has answered does nothing any more. -/
def act (s : SharedRegistry) : RegistryTask → SharedRegistry × RegistryTask
  | .register record =>
    let (result, r) := (Registering.register record).on s.view
    ({ s with records := r.records }, .registered result)
  | .registerAll batch =>
    let (result, r) := (Registering.registerAll batch).on s.view
    ({ s with records := r.records }, .registeredAll result)
  | .load requested waiting point => s.advance requested waiting point
  | .registered result => (s, .registered result)
  | .registeredAll result => (s, .registeredAll result)
  | .loaded requested result => (s, .loaded requested result)

/-- Calls of a new registry, none of which has begun. -/
def start (annotations : AnnotationRegistry) (calls : List RegistryCall) :
    Crew SharedRegistry RegistryTask :=
  ⟨{ annotations }, calls.map RegistryCall.task⟩

/-! What stays. -/

/-- Nothing is taken back: records, loaded classes and memory stay as they are. -/
structure Grows (s s' : SharedRegistry) : Prop where
  records : ClassRegistry.Keeps s.records s'.records
  loaded : ∀ name place, s.loaded.get? name = some place → s'.loaded.get? name = some place
  memory : ∀ (place : Nat) cell, s.memory[place]? = some cell → s'.memory[place]? = some cell

variable {s s' s'' : SharedRegistry} {requested name : String}
  {waiting : List (String × ClassBody)} {b : ClassBody} {place : Nat} {task : RegistryTask}
  {cell : ClassCell}

namespace Grows

theorem refl (s : SharedRegistry) : s.Grows s :=
  ⟨fun _ _ h => h, fun _ _ h => h, fun _ _ h => h⟩

theorem trans (h : s.Grows s') (h' : s'.Grows s'') : s.Grows s'' where
  records name record hknown := h'.records name record (h.records name record hknown)
  loaded name place hloaded := h'.loaded name place (h.loaded name place hloaded)
  memory place cell hcell := h'.memory place cell (h.memory place cell hcell)

theorem remember (s : SharedRegistry) (cell : ClassCell) :
    s.Grows { s with memory := s.memory ++ [cell] } where
  records _ _ h := h
  loaded _ _ h := h
  memory _ _ h :=
    (List.getElem?_append_left (List.getElem?_eq_some_iff.mp h).1).trans h

theorem publish (hnew : s.loaded.get? name = none) (place : Nat) :
    s.Grows { s with loaded := s.loaded.insert name place } where
  records _ _ h := h
  loaded other _ h := by
    have hne : other ≠ name := by
      rintro rfl
      cases hnew.symm.trans h
    exact (Keyed.get?_insert_of_ne hne place s.loaded).trans h
  memory _ _ h := h

end Grows

/-- A class that stands in memory as its record defines it, behind the superclass that is loaded
under the name that the record gives. -/
structure Honest (s : SharedRegistry) (name : String) (cell : ClassCell) : Prop where
  defined : ClassRegistry.definition s.records name = .ok cell.type.body
  root : cell.parent = none → cell.type.superclass = none
  parent : ∀ place, cell.parent = some place →
    ∃ superName parent, cell.type.body.superName = some superName ∧
      s.loaded.get? superName = some place ∧ s.memory[place]? = some parent ∧
      cell.type.superclass = some parent.type

theorem Honest.grows (h : s.Honest name cell) (hgrows : s.Grows s') : s'.Honest name cell where
  defined := (ClassRegistry.definition_keeps hgrows.records h.defined)
  root := h.root
  parent place hplace := by
    obtain ⟨superName, parent, hsuper, hloaded, hmemory, hclass⟩ := h.parent place hplace
    exact ⟨superName, parent, hsuper, hgrows.loaded _ _ hloaded, hgrows.memory _ _ hmemory, hclass⟩

/-- Every published place is one of the memory. -/
def Placed (s : SharedRegistry) : Prop := ∀ entry ∈ s.loaded, entry.2 < s.memory.length

/-- Every class that is published stands in memory, and as it should. -/
structure Sound (s : SharedRegistry) : Prop where
  places : s.Placed
  honest : ∀ name place, s.loaded.get? name = some place →
    ∃ cell, s.memory[place]? = some cell ∧ s.Honest name cell

/-- The classes that wait for a class on the way to the one that was asked for, each for its
superclass. -/
inductive Awaits (s : SharedRegistry) (requested : String) :
    List (String × ClassBody) → String → Prop where
  | asked : Awaits s requested [] requested
  | waits {waiting : List (String × ClassBody)} {name superName : String} {b : ClassBody}
      (hrest : Awaits s requested waiting name)
      (hbody : ClassRegistry.definition s.records name = .ok b)
      (hsuper : b.superName = some superName) : Awaits s requested ((name, b) :: waiting) superName

theorem Awaits.grows (h : Awaits s requested waiting name) (hgrows : s.Grows s') :
    Awaits s' requested waiting name := by
  induction h with
  | asked => exact .asked
  | waits _ hbody hsuper ih =>
    exact .waits ih (ClassRegistry.definition_keeps hgrows.records hbody) hsuper

/-- What a load knows at a point: the class it is concerned with, and what it has read or linked. -/
def Knows (s : SharedRegistry) : LoadPoint → Prop
  | .first _ | .cache _ | .record _ => True
  | .superclass name b superName =>
    ClassRegistry.definition s.records name = .ok b ∧ b.superName = some superName
  | .publish name place => ∃ cell, s.memory[place]? = some cell ∧ s.Honest name cell

/-- What holds of a call at any time. -/
def Fair (s : SharedRegistry) : RegistryTask → Prop
  | .load requested waiting point => Awaits s requested waiting point.name ∧ s.Knows point
  | .loaded requested (.ok place) => s.loaded.get? requested = some place
  | _ => True

theorem Fair.grows (h : s.Fair task) (hgrows : s.Grows s') : s'.Fair task := by
  cases task with
  | load requested waiting point =>
    refine ⟨h.1.grows hgrows, ?_⟩
    have hknows := h.2
    cases point with
    | first _ | cache _ | record _ => trivial
    | superclass name b superName =>
      exact ⟨ClassRegistry.definition_keeps hgrows.records hknows.1, hknows.2⟩
    | publish name place =>
      obtain ⟨cell, hcell, hhonest⟩ := hknows
      exact ⟨cell, hgrows.memory _ _ hcell, hhonest.grows hgrows⟩
  | loaded requested result =>
    cases result with
    | ok place => exact hgrows.loaded _ _ h
    | error e => trivial
  | register _ | registerAll _ | registered _ | registeredAll _ => trivial

/-- A section that takes nothing back, and leaves the registry and its caller as they should be. -/
structure Steps (s : SharedRegistry) (next : SharedRegistry × RegistryTask) : Prop where
  grows : s.Grows next.1
  sound : next.1.Sound
  fair : next.1.Fair next.2

theorem Steps.stay (hsound : s.Sound) (hfair : s.Fair task) : s.Steps (s, task) :=
  ⟨.refl s, hsound, hfair⟩

theorem Steps.after {next : SharedRegistry × RegistryTask} (hgrows : s.Grows s')
    (h : s'.Steps next) : s.Steps next :=
  ⟨hgrows.trans h.grows, h.sound, h.fair⟩

theorem Sound.grows (h : s.Sound) (hgrows : s.Grows s') (hloaded : s'.loaded = s.loaded) :
    s'.Sound := by
  refine ⟨?_, ?_⟩
  · intro entry hentry
    rw [hloaded] at hentry
    have hcell := List.getElem?_eq_getElem (h.places entry hentry)
    exact (List.getElem?_eq_some_iff.mp (hgrows.memory _ _ hcell)).1
  · intro name place hplace
    rw [hloaded] at hplace
    obtain ⟨cell, hcell, hhonest⟩ := h.honest name place hplace
    exact ⟨cell, hgrows.memory _ _ hcell, hhonest.grows hgrows⟩

/-- Linking a class behind the loaded superclass that its record names. -/
theorem link_steps (hsound : s.Sound) (hawaits : Awaits s requested waiting name)
    (hbody : ClassRegistry.definition s.records name = .ok b) {parent : Option Nat}
    (hparent : ∀ place, parent = some place → ∃ superName, b.superName = some superName ∧
      s.loaded.get? superName = some place) :
    s.Steps (s.link requested waiting name b parent) := by
  unfold link
  cases hlink : LoadedClass.link b (parent.map s.classAt) with
  | error e => exact .stay hsound trivial
  | ok c =>
    obtain ⟨own, _, hclass⟩ := Checked.bind_eq_ok.mp hlink
    have hgrows := Grows.remember s ⟨c, parent⟩
    refine ⟨hgrows, hsound.grows hgrows rfl, hawaits.grows hgrows, ⟨c, parent⟩, ?_, ?_⟩
    · exact List.getElem?_concat_length
    · cases hclass
      refine ⟨ClassRegistry.definition_keeps hgrows.records hbody, ?_, ?_⟩
      · rintro hnone
        cases hnone
        rfl
      · rintro place hplace
        cases hplace
        obtain ⟨superName, hsuper, hloaded⟩ := hparent place rfl
        obtain ⟨cell, hcell, _⟩ := hsound.honest superName place hloaded
        refine ⟨superName, cell, hsuper, hloaded, hgrows.memory _ _ hcell, ?_⟩
        have hat : s.classAt place = cell.type := by rw [classAt, hcell]; rfl
        exact congrArg some hat

/-- A class that is loaded is what the load asked for, or what the innermost waiting class is linked
behind. -/
theorem resume_steps (hsound : s.Sound) (hawaits : Awaits s requested waiting name)
    (hloaded : s.loaded.get? name = some place) : s.Steps (s.resume requested waiting place) := by
  cases hawaits with
  | asked => exact .stay hsound hloaded
  | waits hrest hbody hsuper =>
    refine link_steps hsound hrest hbody ?_
    rintro _ heq
    cases heq
    exact ⟨name, hsuper, hloaded⟩

/-- Every section of a load takes nothing back. -/
theorem advance_steps (hsound : s.Sound) {point : LoadPoint}
    (hawaits : Awaits s requested waiting point.name) (hknows : s.Knows point) :
    s.Steps (s.advance requested waiting point) := by
  unfold advance
  cases point with
  | first name =>
    dsimp only
    cases hloaded : s.loaded.get? name with
    | some place => exact resume_steps hsound hawaits hloaded
    | none => exact .stay hsound ⟨hawaits, trivial⟩
  | cache name =>
    dsimp only
    cases hloaded : s.loaded.get? name with
    | some place => exact resume_steps hsound hawaits hloaded
    | none =>
      dsimp only
      split
      · exact .stay hsound trivial
      · exact .stay hsound ⟨hawaits, trivial⟩
  | record name =>
    dsimp only
    cases hbody : ClassRegistry.definition s.records name with
    | error e => exact .stay hsound trivial
    | ok b =>
      dsimp only
      cases hsuper : b.superName with
      | none => exact link_steps hsound hawaits hbody nofun
      | some superName => exact .stay hsound ⟨hawaits, hbody, hsuper⟩
  | superclass name b superName =>
    obtain ⟨hbody, hsuper⟩ := hknows
    dsimp only
    split
    · exact .stay hsound ⟨.waits hawaits hbody hsuper, trivial⟩
    · exact link_steps hsound hawaits hbody nofun
  | publish name place =>
    obtain ⟨cell, hcell, hhonest⟩ := hknows
    dsimp only
    cases hloaded : s.loaded.get? name with
    | some other => exact resume_steps hsound hawaits hloaded
    | none =>
      have hgrows := Grows.publish hloaded place
      have hpublished : Sound { s with loaded := s.loaded.insert name place } := by
        refine ⟨?_, ?_⟩
        · intro entry hentry
          rcases Keyed.mem_insert hentry with rfl | hentry
          · exact (List.getElem?_eq_some_iff.mp hcell).1
          · exact hsound.places entry hentry
        · intro other found hfound
          change (s.loaded.insert name place).get? other = some found at hfound
          rw [Keyed.get?_insert] at hfound
          split at hfound
          · next heq =>
            cases hfound
            exact ⟨cell, hcell, heq ▸ hhonest.grows hgrows⟩
          · obtain ⟨known, hknown, hstands⟩ := hsound.honest other found hfound
            exact ⟨known, hknown, hstands.grows hgrows⟩
      exact .after hgrows
        (resume_steps hpublished (hawaits.grows hgrows) (Keyed.get?_insert_self name place _))

/-- Every section of a call takes nothing back. -/
theorem act_steps (hsound : s.Sound) (hfair : s.Fair task) : s.Steps (s.act task) := by
  have hstores : ∀ {records : Keyed ClassRecord} (done : RegistryTask),
      ClassRegistry.Keeps s.records records → ({ s with records } : SharedRegistry).Fair done →
      s.Steps ({ s with records }, done) := by
    intro records done hkeeps hdone
    have hgrows : s.Grows { s with records } := ⟨hkeeps, fun _ _ h => h, fun _ _ h => h⟩
    exact ⟨hgrows, hsound.grows hgrows rfl, hdone⟩
  cases task with
  | register record => exact hstores _ (ClassRegistry.register_on_keeps s.view record) trivial
  | registerAll batch => exact hstores _ (ClassRegistry.registerAll_on_keeps s.view batch) trivial
  | load requested waiting point => exact advance_steps hsound hfair.1 hfair.2
  | registered _ | registeredAll _ => exact .stay hsound trivial
  | loaded requested result => exact .stay hsound hfair

/-- Where calls stand after a schedule: the registry has only grown, and all is as it should be. -/
theorem run_grows {crew : Crew SharedRegistry RegistryTask} (h : crew.Holds Sound Fair)
    (schedule : List Nat) :
    crew.shared.Grows (crew.run act schedule).shared ∧
      (crew.run act schedule).Holds Sound Fair := by
  refine Crew.run_keeps (I := fun after => crew.shared.Grows after.shared ∧ after.Holds Sound Fair)
    ?_ ⟨.refl _, h⟩ schedule
  rintro after i task htask ⟨hgrows, hholds⟩
  have hsteps := act_steps hholds.shared (hholds.parties task (List.mem_of_getElem? htask))
  refine ⟨?_, hholds.turn htask hsteps.sound hsteps.fair fun _ hother => hother.grows hsteps.grows⟩
  rw [Crew.turn_some htask]
  exact hgrows.trans hsteps.grows

theorem start_holds (annotations : AnnotationRegistry) (calls : List RegistryCall) :
    (start annotations calls).Holds Sound Fair := by
  refine ⟨⟨nofun, nofun⟩, ?_⟩
  intro task htask
  obtain ⟨call, _, rfl⟩ := List.mem_map.mp htask
  cases call with
  | load name => exact ⟨.asked, trivial⟩
  | register _ | registerAll _ => trivial

/-- Callers agree. However the sections of calls that register and load are interleaved, a name keeps
its record for good, all loads of a name that answer do so with one instance, and that instance is
what the only record of the name decodes to, behind the very instance that loads of its superclass
answer. -/
theorem callers_agree (annotations : AnnotationRegistry) (calls : List RegistryCall)
    (schedule later : List Nat) :
    let before := (start annotations calls).run act schedule
    let after := before.run act later
    ClassRegistry.Keeps before.shared.records after.shared.records ∧
    ∀ (i : Nat) name place, before.parties[i]? = some (.loaded name (.ok place)) →
      after.parties[i]? = some (.loaded name (.ok place)) ∧
      (∀ (j : Nat) other, after.parties[j]? = some (.loaded name (.ok other)) → other = place) ∧
      ∃ cell record, before.shared.memory[place]? = some cell ∧
        after.shared.memory[place]? = some cell ∧
        before.shared.records.get? name = some record ∧
        ClassBody.decode record.bytes = .ok cell.type.body ∧ cell.type.name = name ∧
        match cell.parent with
        | none => cell.type.superclass = none
        | some superPlace => ∃ superName parent, cell.type.body.superName = some superName ∧
            after.shared.memory[superPlace]? = some parent ∧
            cell.type.superclass = some parent.type ∧
            ∀ (j : Nat) other, after.parties[j]? = some (.loaded superName (.ok other)) →
              other = superPlace := by
  intro before after
  obtain ⟨_, hbefore⟩ := run_grows (start_holds annotations calls) schedule
  obtain ⟨hgrows, hafter⟩ := run_grows hbefore later
  refine ⟨hgrows.records, ?_⟩
  intro i name place hanswer
  -- A load that has answered says where the class is that is published under the name.
  have hpublished : ∀ (j : Nat) name place, after.parties[j]? = some (.loaded name (.ok place)) →
      after.shared.loaded.get? name = some place :=
    fun j name place hother => hafter.parties _ (List.mem_of_getElem? hother)
  have hloaded : before.shared.loaded.get? name = some place :=
    hbefore.parties _ (List.mem_of_getElem? hanswer)
  have hunique : ∀ name place, before.shared.loaded.get? name = some place →
      ∀ (j : Nat) other, after.parties[j]? = some (.loaded name (.ok other)) → other = place := by
    intro name place hknown j other hother
    have hsame := (hpublished j name other hother).symm.trans (hgrows.loaded name place hknown)
    exact Option.some.inj hsame
  obtain ⟨cell, hcell, hhonest⟩ := hbefore.shared.honest name place hloaded
  obtain ⟨record, hrecord, hdecode, hname⟩ := ClassRegistry.definition_ok_iff.mp hhonest.defined
  have hidle : ∀ s : SharedRegistry, s.act (.loaded name (.ok place)) =
      (s, .loaded name (.ok place)) := fun _ => rfl
  refine ⟨Crew.run_idle hidle hanswer later, hunique name place hloaded, cell, record, hcell,
    hgrows.memory _ _ hcell, hrecord, hdecode, hname, ?_⟩
  cases hparent : cell.parent with
  | none => exact hhonest.root hparent
  | some superPlace =>
    obtain ⟨superName, parent, hsuper, hsuperLoaded, hmemory, hclass⟩ :=
      hhonest.parent superPlace hparent
    exact ⟨superName, parent, hsuper, hgrows.memory _ _ hmemory, hclass,
      hunique superName superPlace hsuperLoaded⟩

/-! Two loads of a class that extends another one, step by step at the same time, and a third load,
of the superclass, that comes later. -/

namespace Race

def base : ClassBody := { name := "app.Base", kind := .entity }

def derived : ClassBody := { name := "app.Derived", kind := .entity, superName := some "app.Base" }

def calls (batch : List ClassRecord) : List RegistryCall :=
  [.registerAll batch, .load "app.Derived", .load "app.Derived", .load "app.Base"]

def schedule : List Nat := 0 :: (List.replicate 8 [1, 2]).flatten ++ [3]

/-- Both loads link both classes, but they answer the ones that were published first. -/
theorem run_eq {batch : List ClassRecord} {outcomes : List Registration} {r : ClassRegistry}
    (hregister : (Registering.registerAll batch).on {} = (.ok outcomes, r))
    (hbase : ClassRegistry.definition r.records "app.Base" = .ok base)
    (hderived : ClassRegistry.definition r.records "app.Derived" = .ok derived) :
    ((start .builtin (calls batch)).run act schedule).parties =
        [.registeredAll (.ok outcomes), .loaded "app.Derived" (.ok 2),
          .loaded "app.Derived" (.ok 2), .loaded "app.Base" (.ok 0)] ∧
      ((start .builtin (calls batch)).run act schedule).shared.memory.map (·.parent) =
        [none, none, some 0, some 0] ∧
      ((start .builtin (calls batch)).run act schedule).shared.records = r.records := by
  have hcontains := ClassRegistry.contains_of_definition hbase
  have hview : ({} : SharedRegistry).view = {} := rfl
  have hroot : base.superName = none := rfl
  have hsuper : derived.superName = some "app.Base" := rfl
  have hlinkBase : LoadedClass.link base none = .ok ⟨base, none, []⟩ := rfl
  have hlinkDerived : ∀ c, LoadedClass.link derived (some c) =
      .ok ⟨derived, some c, c.slots ++ []⟩ := fun _ => rfl
  simp [Crew.run, Crew.turn, start, calls, schedule, RegistryCall.task, act, advance, resume, link,
    List.replicate, hview, hregister, hbase, hderived, hcontains, hroot, hsuper, hlinkBase,
    hlinkDerived, Keyed.get?_insert]

end Race

/-- In the race both loads answer the same instance, and it stands on the instance that the load of
the superclass answers. -/
theorem callers_agree_race :
    ∃ batch place superPlace cell parent,
      let crew := (start .builtin (Race.calls batch)).run act Race.schedule
      crew.parties[1]? = some (.loaded "app.Derived" (.ok place)) ∧
      crew.parties[2]? = some (.loaded "app.Derived" (.ok place)) ∧
      crew.parties[3]? = some (.loaded "app.Base" (.ok superPlace)) ∧
      crew.shared.memory.length = 4 ∧ crew.shared.memory[place]? = some cell ∧
      cell.type.body = Race.derived ∧ crew.shared.memory[superPlace]? = some parent ∧
      cell.type.superclass = some parent.type := by
  obtain ⟨baseBytes, hbaseBytes⟩ := ClassBody.encode_of_limited (b := Race.base) (by decide +kernel)
  obtain ⟨derivedBytes, hderivedBytes⟩ :=
    ClassBody.encode_of_limited (b := Race.derived) (by decide +kernel)
  let batch : List ClassRecord :=
    [.ofBytes "app.Base" baseBytes, .ofBytes "app.Derived" derivedBytes]
  have hnames : (batch.map (·.name)).Nodup := by
    change ["app.Base", "app.Derived"].Nodup
    decide
  obtain ⟨outcomes, r, hregister⟩ := ClassRegistry.registerAll_new
    (r := {}) hnames fun _ _ => rfl
  have hholds : ∀ record ∈ batch, r.records.get? record.name = some record :=
    fun record => ClassRegistry.registerAll_holds (ClassRegistry.Reachable.new .builtin).indexed
      (ClassRegistry.digestsSeparate_new hnames fun _ _ => rfl) hregister
  have hstoredBase : ClassRegistry.Stores r.records Race.base :=
    ⟨_, hholds _ List.mem_cons_self, hbaseBytes⟩
  have hstoredDerived : ClassRegistry.Stores r.records Race.derived :=
    ⟨_, hholds _ (List.mem_cons_of_mem _ List.mem_cons_self), hderivedBytes⟩
  have hbase : ClassRegistry.definition r.records "app.Base" = .ok Race.base :=
    hstoredBase.definition (by decide +kernel)
  have hderived : ClassRegistry.definition r.records "app.Derived" = .ok Race.derived :=
    hstoredDerived.definition (by decide +kernel)
  obtain ⟨hparties, hparents, hrecords⟩ :=
    Race.run_eq (Registering.accepted_eq_ok.mp hregister) hbase hderived
  obtain ⟨_, hanswers⟩ := callers_agree .builtin (Race.calls batch) Race.schedule []
  have hfirst : ((start .builtin (Race.calls batch)).run act Race.schedule).parties[1]? =
      some (.loaded "app.Derived" (.ok 2)) := by rw [hparties]; rfl
  obtain ⟨_, _, cell, record, hcell, _, hrecord, hdecode, hname, hsuper⟩ :=
    hanswers 1 "app.Derived" 2 hfirst
  -- The record of the class is the one of the batch, so that the class is the derived one.
  have hbody : cell.type.body = Race.derived := by
    have hdefined := ClassRegistry.definition_ok_iff.mpr ⟨record, hrecord, hdecode, hname⟩
    rw [hrecords, hderived] at hdefined
    exact (Except.ok.inj hdefined).symm
  have hparent : cell.parent = some 0 := by
    have hsecond := congrArg (fun parents => parents[2]?) hparents
    rw [List.getElem?_map, hcell] at hsecond
    exact Option.some.inj hsecond
  rw [hparent] at hsuper
  obtain ⟨_, parent, _, hmemory, hclass, _⟩ := hsuper
  rw [Crew.run, List.foldl_nil] at hmemory
  have hlength := congrArg List.length hparents
  rw [List.length_map] at hlength
  refine ⟨batch, 2, 0, cell, parent, hfirst, ?_, ?_, hlength, hcell, hbody, hmemory, hclass⟩
  · rw [hparties]; rfl
  · rw [hparties]; rfl

end SharedRegistry

end EntityForge
