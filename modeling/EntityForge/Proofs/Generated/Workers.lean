import EntityForge.Proofs.Concurrency.Crew
import EntityForge.Proofs.Generated.Reports

/-!
Workers. Several workers share a counter and a registry: each takes the next class, plans it, registers
the plan, and goes on until no class is left. The plan of one worker may be overtaken by what others
register. Still, whatever the schedule, every class is taken once, and the report and the registry are
those of passes that are made one after the other.
-/

namespace EntityForge

inductive WorkerTask where
  | ready
  | planning (index : Nat) (c : ClassMeta)
  | registering (index : Nat) (generated : GeneratedEntity)
  | stopped

/-- A worker: its task, and the classes it is done with, by their index. -/
structure Worker where
  task : WorkerTask := .ready
  finished : List (Nat × Except GenerationError GeneratedEntity) := []

structure WorkBoard where
  next : Nat := 0
  registry : ClassRegistry

/-- The worker is done with a class, and ready for the next one. -/
def Worker.finish (w : Worker) (index : Nat) (answer : Except GenerationError GeneratedEntity) :
    Worker where
  finished := w.finished ++ [(index, answer)]

namespace Generator

/-- One step of a worker. -/
def work (g : Generator) (classes : List ClassMeta) (board : WorkBoard) (w : Worker) :
    WorkBoard × Worker :=
  match w.task with
  | .ready =>
    let taken :=
      match classes[board.next]? with
      | some c => .planning board.next c
      | none => .stopped
    ({ board with next := board.next + 1 }, { w with task := taken })
  | .planning index c =>
    match g.plan board.registry.annotations c with
    | .ok generated => (board, { w with task := .registering index generated })
    | .error e => (board, w.finish index (.error e))
  | .registering index generated =>
    match (Registering.registerAll generated.records).on board.registry with
    | (.ok _, registry) => ({ board with registry }, w.finish index (.ok generated))
    | (.error e, registry) => ({ board with registry }, w.finish index (.error (.failure e)))
  | .stopped => (board, w)

end Generator

abbrev WorkerPool := Crew WorkBoard Worker

namespace WorkerPool

def start (r : ClassRegistry) (workers : Nat) : WorkerPool :=
  ⟨{ registry := r }, List.replicate workers {}⟩

/-- No worker has anything left to do. -/
def Stopped (pool : WorkerPool) : Prop := ∀ w ∈ pool.parties, w.task = .stopped

/-- What all workers are done with, worker by worker. -/
def finished (pool : WorkerPool) : List (Nat × Except GenerationError GeneratedEntity) :=
  pool.parties.flatMap (·.finished)

/-- The answers in the order of the classes; none where a class was not done. -/
def slots (pool : WorkerPool) (count : Nat) : List (Option (Except GenerationError GeneratedEntity)) :=
  pool.finished.foldl (fun slots (index, answer) => slots.set index (some answer))
    (List.replicate count none)

/-- The report on classes, if all of them were done. -/
def report? (pool : WorkerPool) (classes : List ClassMeta) : Option GenerationReport :=
  ((pool.slots classes.length).mapM id).map fun answers => .ofAnswers (classes.zip answers)

end WorkerPool

/-! What single steps keep. -/

namespace Worker

def indices (w : Worker) : List Nat :=
  (match w.task with
    | .planning index _ | .registering index _ => [index]
    | .ready | .stopped => []) ++ w.finished.map (·.1)

def stored (w : Worker) : List (List ClassRecord) :=
  w.finished.filterMap fun (_, answer) => answer.toOption.map (·.records)

variable {g : Generator} {r : ClassRegistry} {classes : List ClassMeta} {next next' : Nat}
  {w : Worker} {index : Nat} {c : ClassMeta}

/-- A worker does, class by class, what a pass over the class at the start would have done. -/
structure Follows (g : Generator) (r : ClassRegistry) (classes : List ClassMeta) (next : Nat)
    (w : Worker) : Prop where
  planning : ∀ index c, w.task = .planning index c → classes[index]? = some c
  registering : ∀ index generated, w.task = .registering index generated →
    ∃ c, classes[index]? = some c ∧ g.plan r.annotations c = .ok generated
  finished : ∀ index answer, (index, answer) ∈ w.finished →
    ∃ c, classes[index]? = some c ∧ answer = g.answer r c
  stopped : w.task = .stopped → classes.length ≤ next

theorem Follows.mono (h : w.Follows g r classes next) (hle : next ≤ next') :
    w.Follows g r classes next' :=
  { h with stopped := fun hstopped => Nat.le_trans (h.stopped hstopped) hle }

theorem Follows.ready (htask : w.task = .ready)
    (hfinished : ∀ index answer, (index, answer) ∈ w.finished →
      ∃ c, classes[index]? = some c ∧ answer = g.answer r c) : w.Follows g r classes next := by
  refine ⟨?_, ?_, hfinished, ?_⟩
  · intro index c heq
    cases htask.symm.trans heq
  · intro index generated heq
    cases htask.symm.trans heq
  · intro heq
    cases htask.symm.trans heq

theorem Follows.finish (h : w.Follows g r classes next) (hclass : classes[index]? = some c) :
    (w.finish index (g.answer r c)).Follows g r classes next := by
  refine .ready rfl fun i answer hmem => ?_
  rcases List.mem_append.mp hmem with hbefore | hlast
  · exact h.finished i answer hbefore
  · cases List.mem_singleton.mp hlast
    exact ⟨c, hclass, rfl⟩

theorem stored_finish (w : Worker) (index : Nat) (answer : Except GenerationError GeneratedEntity) :
    (w.finish index answer).stored = w.stored ++ (answer.toOption.map (·.records)).toList := by
  unfold stored Worker.finish
  rw [List.filterMap_append]
  cases answer <;> rfl

/-- A class that a worker is done with is one that it had taken. -/
theorem indices_finish (answer : Except GenerationError GeneratedEntity)
    (h : w.indices = index :: w.finished.map (·.1)) :
    (w.finish index answer).indices.Perm (w.indices ++ []) := by
  have hfinish : (w.finish index answer).indices = w.finished.map (·.1) ++ [index] := by
    simp [indices, Worker.finish]
  rw [h, hfinish, List.append_nil]
  exact List.perm_append_singleton _ _

end Worker

namespace WorkerPool

variable {g : Generator} {r : ClassRegistry} {classes : List ClassMeta} {pool : WorkerPool}
  {w w' : Worker} {i : Nat}

/-- Where a pool stands: the registry is merged from what the workers have registered, every class
below the counter was taken once, and every worker does what the passes would do. -/
structure Sound (g : Generator) (r : ClassRegistry) (classes : List ClassMeta) (pool : WorkerPool) :
    Prop where
  merged : ClassRegistry.Merged r (pool.parties.flatMap Worker.stored) pool.shared.registry
  indices : (pool.parties.flatMap Worker.indices).Perm
    (List.range (min pool.shared.next classes.length))
  workers : ∀ w ∈ pool.parties, w.Follows g r classes pool.shared.next

namespace Sound

theorem start (hindexed : ClassRegistry.Indexed r.records) (workers : Nat) :
    (WorkerPool.start r workers).Sound g r classes := by
  have hnew : ∀ w ∈ (WorkerPool.start r workers).parties, w = {} :=
    fun w hw => List.eq_of_mem_replicate hw
  have hnone : ∀ {α : Type} (f : Worker → List α), f {} = [] →
      (WorkerPool.start r workers).parties.flatMap f = [] := by
    intro α f hf
    refine List.flatMap_eq_nil_iff.mpr fun w hw => ?_
    rw [hnew w hw, hf]
  refine ⟨?_, ?_, ?_⟩
  · rw [hnone _ rfl]
    exact .start hindexed
  · rw [hnone _ rfl]
    simp [WorkerPool.start]
  · intro w hw
    rw [hnew w hw]
    exact .ready rfl fun _ _ hmem => absurd hmem List.not_mem_nil

/-- A step that adds to what its worker has taken and registered, and to what is shared. -/
theorem update (h : pool.Sound g r classes) (hw : pool.parties[i]? = some w) (board : WorkBoard)
    (stored : List (List ClassRecord)) (indices : List Nat)
    (hstored : w'.stored = w.stored ++ stored)
    (hmerged : ClassRegistry.Merged r (pool.parties.flatMap Worker.stored ++ stored) board.registry)
    (hindices : w'.indices.Perm (w.indices ++ indices))
    (hrange : List.range (min pool.shared.next classes.length) ++ indices =
      List.range (min board.next classes.length))
    (hnext : pool.shared.next ≤ board.next) (hfollows : w'.Follows g r classes board.next) :
    Sound g r classes ⟨board, pool.parties.set i w'⟩ := by
  refine ⟨?_, ?_, ?_⟩
  · have hadded : (Worker.stored w').Perm (w.stored ++ stored) := by rw [hstored]
    have hperm := Crew.flatMap_set_perm hw hadded
    exact hmerged.congr fun batch => (hperm.mem_iff).symm
  · rw [← hrange]
    exact (Crew.flatMap_set_perm hw hindices).trans (h.indices.append_right _)
  · intro other hother
    rcases List.mem_or_eq_of_mem_set hother with hold | rfl
    · exact (h.workers other hold).mono hnext
    · exact hfollows

/-- Plans are compatible with everything that the workers have registered. -/
theorem compatible (h : pool.Sound g r classes) (hconsistent : g.Consistent r.annotations classes)
    {c : ClassMeta} (hc : c ∈ classes) {generated : GeneratedEntity}
    (hplan : g.plan r.annotations c = .ok generated) :
    ∀ other ∈ pool.parties.flatMap Worker.stored,
      ClassRegistry.Compatible generated.records other := by
  intro other hother
  obtain ⟨w, hw, hstored⟩ := List.mem_flatMap.mp hother
  obtain ⟨⟨index, answer⟩, hfinished, hbatch⟩ := List.mem_filterMap.mp hstored
  obtain ⟨c', hclass, rfl⟩ := (h.workers w hw).finished index answer hfinished
  cases hanswer : g.answer r c' with
  | error e =>
    rw [hanswer] at hbatch
    cases hbatch
  | ok generated' =>
    rw [hanswer] at hbatch
    cases hbatch
    exact hconsistent.compatible hc (List.mem_of_getElem? hclass) hplan
      (Generator.answer_ok_iff.mp hanswer).1

/-- Every step keeps a pool sound. -/
theorem turn (hconsistent : g.Consistent r.annotations classes) (h : pool.Sound g r classes)
    (hw : pool.parties[i]? = some w) : Sound g r classes (pool.turn (g.work classes) i) := by
  have hfollows := h.workers w (List.mem_of_getElem? hw)
  have hmerged : ClassRegistry.Merged r (pool.parties.flatMap Worker.stored ++ [])
      pool.shared.registry := by
    rw [List.append_nil]
    exact h.merged
  rw [Crew.turn_some hw]
  unfold Generator.work
  cases htask : w.task with
  | ready =>
    have hindices : w.indices = w.finished.map (·.1) := by simp [Worker.indices, htask]
    dsimp only
    cases hclass : classes[pool.shared.next]? with
    | none =>
      have hbound : classes.length ≤ pool.shared.next := List.getElem?_eq_none_iff.mp hclass
      refine h.update hw _ [] [] (List.append_nil _).symm hmerged ?_ ?_ (Nat.le_succ _) ?_
      · rw [hindices, List.append_nil]
        exact .refl _
      · rw [Nat.min_eq_right hbound, Nat.min_eq_right (Nat.le_succ_of_le hbound), List.append_nil]
      · refine ⟨?_, ?_, hfollows.finished, fun _ => Nat.le_succ_of_le hbound⟩
        · rintro index c heq
          cases heq
        · rintro index generated heq
          cases heq
    | some c =>
      have hbound : pool.shared.next < classes.length := (List.getElem?_eq_some_iff.mp hclass).1
      refine h.update hw _ [] [pool.shared.next] (List.append_nil _).symm hmerged ?_ ?_
        (Nat.le_succ _) ?_
      · rw [hindices]
        exact (List.perm_append_singleton _ _).symm
      · rw [Nat.min_eq_left (Nat.le_of_lt hbound), Nat.min_eq_left hbound, List.range_succ]
      · refine ⟨?_, ?_, hfollows.finished, nofun⟩
        · rintro index c' heq
          cases heq
          exact hclass
        · rintro index generated heq
          cases heq
  | planning index c =>
    have hclass := hfollows.planning index c htask
    have hindices : w.indices = index :: w.finished.map (·.1) := by simp [Worker.indices, htask]
    dsimp only
    rw [h.merged.annotations]
    cases hplan : g.plan r.annotations c with
    | ok generated =>
      refine h.update hw _ [] [] (List.append_nil _).symm hmerged ?_ (List.append_nil _)
        (Nat.le_refl _) ?_
      · rw [hindices, List.append_nil]
        exact .refl _
      · refine ⟨nofun, ?_, hfollows.finished, nofun⟩
        rintro index' generated' heq
        cases heq
        exact ⟨c, hclass, hplan⟩
    | error e =>
      have hanswer := Generator.answer_of_pass (Generator.pass_unplanned hplan)
      have hdone := hfollows.finish hclass
      rw [hanswer] at hdone
      exact h.update hw _ [] [] (w.stored_finish index _) hmerged (Worker.indices_finish _ hindices)
        (List.append_nil _) (Nat.le_refl _) hdone
  | registering index generated =>
    obtain ⟨c, hclass, hplan⟩ := hfollows.registering index generated htask
    have hindices : w.indices = index :: w.finished.map (·.1) := by simp [Worker.indices, htask]
    have hdone := hfollows.finish hclass
    dsimp only
    rcases h.merged.registerAll (h.compatible hconsistent (List.mem_of_getElem? hclass) hplan) with
      ⟨outcomes, outcomes', r', m', hregister', hregister, hmerged'⟩ | ⟨name, hrefuse', hrefuse⟩
    · rw [Generator.answer_ok_iff.mpr
        ⟨hplan, outcomes, r', Registering.accepted_eq_ok.mpr hregister⟩] at hdone
      rw [hregister']
      exact h.update hw _ [generated.records] [] (w.stored_finish index _) hmerged'
        (Worker.indices_finish _ hindices) (List.append_nil _) (Nat.le_refl _) hdone
    · rw [Generator.answer_of_pass (Generator.pass_refused hplan hrefuse)] at hdone
      rw [hrefuse']
      exact h.update hw _ [] [] (w.stored_finish index _) hmerged (Worker.indices_finish _ hindices)
        (List.append_nil _) (Nat.le_refl _) hdone
  | stopped =>
    refine h.update hw _ [] [] (List.append_nil _).symm hmerged ?_ (List.append_nil _)
      (Nat.le_refl _) hfollows
    rw [List.append_nil]

theorem run (hconsistent : g.Consistent r.annotations classes) (h : pool.Sound g r classes)
    (schedule : List Nat) : Sound g r classes (pool.run (g.work classes) schedule) :=
  Crew.run_keeps (fun _ _ _ hw h => turn hconsistent h hw) h schedule

end Sound

/-! How long workers go on. -/

/-- The steps that a worker may still make before it stops, when it makes all of them alone. -/
def patience (classes : List ClassMeta) (board : WorkBoard) (w : Worker) : Nat :=
  match w.task with
  | .ready => 3 * (classes.length - board.next) + 1
  | .planning _ _ => 3 * (classes.length - board.next) + 3
  | .registering _ _ => 3 * (classes.length - board.next) + 2
  | .stopped => 0

theorem next_le_work (board : WorkBoard) (w : Worker) :
    board.next ≤ (g.work classes board w).1.next := by
  unfold Generator.work
  split
  · exact Nat.le_succ _
  · split <;> exact Nat.le_refl _
  · split <;> exact Nat.le_refl _
  · exact Nat.le_refl _

/-- Every step of a worker takes its patience down. -/
theorem patience_work (board : WorkBoard) (w : Worker) :
    patience classes (g.work classes board w).1 (g.work classes board w).2 ≤
      patience classes board w - 1 := by
  unfold Generator.work patience
  cases htask : w.task with
  | ready =>
    dsimp only
    cases hclass : classes[board.next]? with
    | none => exact Nat.zero_le _
    | some c =>
      have hbound : board.next < classes.length := (List.getElem?_eq_some_iff.mp hclass).1
      dsimp only
      omega
  | planning index c =>
    dsimp only
    cases g.plan board.registry.annotations c with
    | ok generated => exact Nat.le_refl _
    | error e => exact Nat.le_succ _
  | registering index generated =>
    dsimp only
    cases (Registering.registerAll generated.records).on board.registry with
    | mk result registry => cases result <;> exact Nat.le_refl _
  | stopped => simp [htask]

/-- What others do takes no patience up. -/
theorem patience_le (board : WorkBoard) (w other : Worker) :
    patience classes (g.work classes board w).1 other ≤ patience classes board other := by
  have hnext : board.next ≤ (g.work classes board w).1.next := next_le_work board w
  unfold patience
  cases other.task <;> dsimp only <;> omega

/-- Workers that get enough turns stop, whatever the order of the turns. -/
theorem stopped_of_count (r : ClassRegistry) {workers : Nat} {schedule : List Nat}
    (hturns : ∀ i < workers, 3 * classes.length + 1 ≤ schedule.count i) :
    Stopped ((start r workers).run (g.work classes) schedule) := by
  intro w hw
  obtain ⟨i, hi⟩ := List.mem_iff_getElem?.mp hw
  have hbound : i < workers := by
    have hlt := (List.getElem?_eq_some_iff.mp hi).1
    rw [Crew.run_length] at hlt
    simpa [start] using hlt
  have hnew : (start r workers).parties[i]? = some {} := by
    simp [start, hbound]
  obtain ⟨w', hw', hle⟩ := Crew.run_measure (μ := patience classes) (patience_work (g := g))
    patience_le hnew schedule
  cases hi.symm.trans hw'
  have hinitial : patience classes (start r workers).shared {} = 3 * classes.length + 1 := rfl
  have hzero : patience classes ((start r workers).run (g.work classes) schedule).shared w = 0 := by
    have hcount := hturns i hbound
    omega
  unfold patience at hzero
  cases htask : w.task with
  | stopped => rfl
  | ready | planning _ _ | registering _ _ =>
    rw [htask] at hzero
    cases hzero

/-! The report. -/

/-- Filling slots with what is known of each of them. -/
theorem fill_getElem? {α : Type} {target : List α} (finished : List (Nat × α))
    (hfinished : ∀ entry ∈ finished, target[entry.1]? = some entry.2) (slots : List (Option α))
    (hlength : slots.length = target.length) (i : Nat) :
    (finished.foldl (fun slots (index, x) => slots.set index (some x)) slots)[i]? =
      if i ∈ finished.map (·.1) then target[i]?.map some else slots[i]? := by
  induction finished generalizing slots with
  | nil => simp
  | cons entry rest ih =>
    obtain ⟨index, x⟩ := entry
    have htarget : target[index]? = some x := hfinished (index, x) List.mem_cons_self
    have hbound : index < slots.length := hlength ▸ (List.getElem?_eq_some_iff.mp htarget).1
    rw [List.foldl_cons, ih (fun entry hentry => hfinished entry (List.mem_cons_of_mem _ hentry)) _
      ((List.length_set).trans hlength), List.map_cons]
    by_cases hrest : i ∈ rest.map (·.1)
    · rw [if_pos hrest, if_pos (List.mem_cons_of_mem _ hrest)]
    · rw [if_neg hrest]
      by_cases hsame : i = index
      · subst hsame
        rw [if_pos List.mem_cons_self, List.getElem?_set_self hbound, htarget, Option.map_some]
      · rw [if_neg (by simpa [hsame] using hrest), List.getElem?_set_ne (Ne.symm hsame)]

theorem fill_eq {α : Type} {target : List α} {finished : List (Nat × α)}
    (hfinished : ∀ entry ∈ finished, target[entry.1]? = some entry.2)
    (hindices : (finished.map (·.1)).Perm (List.range target.length)) :
    finished.foldl (fun slots (index, x) => slots.set index (some x))
      (List.replicate target.length none) = target.map some := by
  refine List.ext_getElem? fun i => ?_
  rw [fill_getElem? finished hfinished _ List.length_replicate, List.getElem?_map]
  split
  · rfl
  · next hmissed =>
    have hbound : ¬ i < target.length := by rwa [hindices.mem_iff, List.mem_range] at hmissed
    rw [List.getElem?_eq_none (by simpa using hbound), List.getElem?_eq_none (by simpa using hbound)]
    rfl

theorem mapM_some {α : Type} (items : List α) : (items.map some).mapM id = some items := by
  induction items with
  | nil => rfl
  | cons x rest ih =>
    rw [List.map_cons, List.mapM_cons, ih]
    rfl

/-- Once all workers have stopped, every class was done once, and the report is complete. -/
theorem Sound.finished (h : pool.Sound g r classes) (hstopped : Stopped pool)
    (hworkers : pool.parties ≠ []) :
    (pool.finished.map (·.1)).Perm (List.range classes.length) ∧
      (∀ index answer, (index, answer) ∈ pool.finished →
        ∃ c, classes[index]? = some c ∧ answer = g.answer r c) ∧
      pool.report? classes = some (.ofAnswers (classes.map fun c => (c, g.answer r c))) := by
  have hanswers : ∀ index answer, (index, answer) ∈ pool.finished →
      ∃ c, classes[index]? = some c ∧ answer = g.answer r c := by
    intro index answer hmem
    obtain ⟨w, hw, hfinished⟩ := List.mem_flatMap.mp hmem
    exact (h.workers w hw).finished index answer hfinished
  have hindices : (pool.finished.map (·.1)).Perm (List.range classes.length) := by
    have htaken : pool.parties.flatMap Worker.indices = pool.finished.map (·.1) := by
      unfold WorkerPool.finished
      rw [List.map_flatMap]
      refine List.flatMap_congr fun w hw => ?_
      simp [Worker.indices, hstopped w hw]
    obtain ⟨w, hw⟩ := List.exists_mem_of_ne_nil _ hworkers
    have hnext := (h.workers w hw).stopped (hstopped w hw)
    rw [← htaken]
    exact (Nat.min_eq_right hnext) ▸ h.indices
  refine ⟨hindices, hanswers, ?_⟩
  have hslots : pool.slots classes.length = (classes.map (g.answer r)).map some := by
    have hlength : (classes.map (g.answer r)).length = classes.length := List.length_map _
    unfold WorkerPool.slots
    rw [← hlength]
    refine fill_eq ?_ (hlength ▸ hindices)
    rintro ⟨index, answer⟩ hmem
    obtain ⟨c, hclass, rfl⟩ := hanswers index answer hmem
    rw [List.getElem?_map, hclass, Option.map_some]
  rw [WorkerPool.report?, hslots, mapM_some, Option.map_some, ← List.map_prod_left_eq_zip]

/-- What the workers have registered in the end are the batches of the passes that succeed. -/
theorem Sound.mem_stored (h : pool.Sound g r classes) (hstopped : Stopped pool)
    (hworkers : pool.parties ≠ []) (batch : List ClassRecord) :
    batch ∈ pool.parties.flatMap Worker.stored ↔ batch ∈ g.made r classes := by
  obtain ⟨hindices, hanswers, _⟩ := h.finished hstopped hworkers
  have hstored : batch ∈ pool.parties.flatMap Worker.stored ↔
      ∃ index generated, (index, .ok generated) ∈ pool.finished ∧ generated.records = batch := by
    unfold Worker.stored WorkerPool.finished
    simp only [List.mem_flatMap, List.mem_filterMap, Option.map_eq_some_iff]
    constructor
    · rintro ⟨w, hw, ⟨index, answer⟩, hmem, generated, hanswer, hbatch⟩
      cases answer with
      | error e => cases hanswer
      | ok found =>
        cases hanswer
        exact ⟨index, generated, ⟨w, hw, hmem⟩, hbatch⟩
    · rintro ⟨index, generated, ⟨w, hw, hmem⟩, hbatch⟩
      exact ⟨w, hw, _, hmem, generated, rfl, hbatch⟩
  rw [hstored, Generator.mem_made]
  constructor
  · rintro ⟨index, generated, hmem, hbatch⟩
    obtain ⟨c, hclass, hanswer⟩ := hanswers index _ hmem
    exact ⟨c, List.mem_of_getElem? hclass, generated, hanswer.symm, hbatch⟩
  · rintro ⟨c, hc, generated, hanswer, hbatch⟩
    obtain ⟨index, hclass⟩ := List.mem_iff_getElem?.mp hc
    have hbound := (List.getElem?_eq_some_iff.mp hclass).1
    have htaken : index ∈ pool.finished.map (·.1) :=
      hindices.mem_iff.mpr (List.mem_range.mpr hbound)
    obtain ⟨⟨index', answer⟩, hmem, rfl⟩ := List.mem_map.mp htaken
    obtain ⟨c', hclass', rfl⟩ := hanswers _ answer hmem
    cases hclass.symm.trans hclass'
    exact ⟨_, generated, hanswer ▸ hmem, hbatch⟩

end WorkerPool

namespace Generator

/-- Generating entities on any number of workers does not depend on the schedule. Workers that get
enough turns stop; and once all have stopped, every class was done once, each answered what a pass
over it at the start would have answered, and the report, in the order of the classes, and the
registry are those of passes that are made one after the other. -/
theorem generateAll_scheduled {g : Generator} {r : ClassRegistry} {classes : List ClassMeta}
    (hreach : r.Reachable) (hconsistent : g.Consistent r.annotations classes) {workers : Nat}
    (hworkers : 0 < workers) (schedule : List Nat) :
    let pool := (WorkerPool.start r workers).run (g.work classes) schedule
    let report : GenerationReport := .ofAnswers (classes.map fun c => (c, g.answer r c))
    ((∀ i < workers, 3 * classes.length + 1 ≤ schedule.count i) → WorkerPool.Stopped pool) ∧
    (WorkerPool.Stopped pool →
      ((WorkerPool.finished pool).map (·.1)).Perm (List.range classes.length) ∧
      (∀ index answer, (index, answer) ∈ WorkerPool.finished pool →
        ∃ c, classes[index]? = some c ∧ answer = g.answer r c) ∧
      WorkerPool.report? pool classes = some report ∧
      g.generateAll r classes = (report, pool.shared.registry) ∧
      ClassRegistry.Merged r (report.successes.map (·.records)) pool.shared.registry ∧
      ∀ generated ∈ report.successes,
        ClassRegistry.DigestsSeparate r.records generated.records →
        ∀ record ∈ generated.records,
          pool.shared.registry.records.get? record.name = some record) := by
  intro pool report
  refine ⟨WorkerPool.stopped_of_count r, fun hstopped => ?_⟩
  have hindexed := hreach.indexed
  have hsound : WorkerPool.Sound g r classes pool :=
    (WorkerPool.Sound.start hindexed workers).run hconsistent schedule
  have hparties : pool.parties ≠ [] := by
    refine List.ne_nil_of_length_pos ?_
    rw [Crew.run_length]
    simpa [WorkerPool.start] using hworkers
  obtain ⟨hindices, hanswers, hreport⟩ := hsound.finished hstopped hparties
  obtain ⟨hsequential, hmerged⟩ := generateAll_merged hindexed hconsistent
  have hregistry : (g.generateAll r classes).2 = pool.shared.registry :=
    hmerged.unique hsound.merged fun batch => (hsound.mem_stored hstopped hparties batch).symm
  have hmade : report.successes.map (·.records) = g.made r classes := by
    simp [report, made, GenerationReport.ofAnswers, List.filterMap_map, List.map_filterMap]
  refine ⟨hindices, hanswers, hreport, Prod.ext hsequential hregistry, ?_, ?_⟩
  · rw [hmade, ← hregistry]
    exact hmerged
  · intro generated hgenerated hdigests record hrecord
    have hbatch : generated.records ∈ g.made r classes :=
      hmade ▸ List.mem_map_of_mem hgenerated
    obtain ⟨c, _, planned, hanswer, hplanned⟩ := mem_made.mp hbatch
    obtain ⟨_, outcomes, r', hregister⟩ := answer_ok_iff.mp hanswer
    rw [hplanned] at hregister
    rw [← hregistry]
    exact hmerged.holds hbatch hregister
      (ClassRegistry.registerAll_holds hindexed hdigests hregister hrecord)

/-- Two workers on two classes of one field, turn and turn about. -/
theorem generateAll_scheduled_counters :
    ∃ pool report, pool = (WorkerPool.start {} 2).run
        ((Generator.mk {} .runtime).work
          [Counter.classMeta "app.A" none, Counter.classMeta "app.B" none])
        (List.replicate 7 [0, 1]).flatten ∧
      WorkerPool.Stopped pool ∧
      WorkerPool.report? pool [Counter.classMeta "app.A" none, Counter.classMeta "app.B" none] =
        some report ∧
      report.failures.length = 0 ∧ report.successes.map (·.name) = ["app.A", "app.B"] := by
  have hfirst : Counter.Checks .runtime "app.A" none := by decide +kernel
  have hsecond : Counter.Checks .runtime "app.B" none := by decide +kernel
  obtain ⟨first, r, hgenerate, hentity, _, _, hinstalls⟩ := Counter.generates hfirst
  obtain ⟨second, r', hgenerate', hentity', _, _, hinstalls'⟩ := Counter.generates hsecond
  have hplan := (generate_ok_iff.mp hgenerate).1
  have hplan' := (generate_ok_iff.mp hgenerate').1
  have hconsistent : (Generator.mk {} .runtime).Consistent .builtin
      [Counter.classMeta "app.A" none, Counter.classMeta "app.B" none] := by
    refine List.pairwise_pair.mpr fun planned planned' hplanned hplanned' x hx y hy hname => ?_
    cases hplan.symm.trans hplanned
    cases hplan'.symm.trans hplanned'
    obtain ⟨b, hb, hencodes⟩ := Checked.forall₂_mem_left hinstalls.makes.records hx
    obtain ⟨b', hb', hencodes'⟩ := Checked.forall₂_mem_left hinstalls'.makes.records hy
    rw [hentity] at hb
    rw [hentity'] at hb'
    have hapart : ∀ b ∈ Counter.bodies .runtime "app.A" none,
        ∀ b' ∈ Counter.bodies .runtime "app.B" none, b.name ≠ b'.name := by decide +kernel
    exact absurd (hencodes.name.symm.trans (hname.trans hencodes'.name)) (hapart b hb b' hb')
  obtain ⟨hstops, hdone⟩ := generateAll_scheduled (.new .builtin) hconsistent Nat.two_pos
    (List.replicate 7 [0, 1]).flatten
  have hstopped := hstops (by decide)
  obtain ⟨_, _, hreport, _⟩ := hdone hstopped
  have hanswer : (Generator.mk {} .runtime).answer {} (Counter.classMeta "app.A" none) =
      .ok first := answer_of_pass (Registering.accepted_eq_ok.mp hgenerate)
  have hanswer' : (Generator.mk {} .runtime).answer {} (Counter.classMeta "app.B" none) =
      .ok second := answer_of_pass (Registering.accepted_eq_ok.mp hgenerate')
  refine ⟨_, _, rfl, hstopped, hreport, ?_, ?_⟩
  · simp [GenerationReport.ofAnswers, hanswer, hanswer']
  · simp [GenerationReport.ofAnswers, hanswer, hanswer', Except.toOption, GeneratedEntity.name,
      hentity, hentity', Counter.entity]

end Generator

end EntityForge
