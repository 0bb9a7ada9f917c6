import EntityForge.Proofs.Registry.Merging
import Mathlib.Data.List.Dedup

/-!
Counting insertions. What a registry reports of a record is decided before anything of the same
submission is stored, by the names that are known then. So no two submissions insert the same name,
and every stored name is reported as inserted; but a batch that gives a new name twice reports it
twice, and these repetitions are all that the reports exceed the stored names by.
-/

namespace EntityForge

/-- What a registry is asked to store: bytes under a name, a class, or several records. -/
inductive Submission where
  | raw (name : String) (content : Bytes)
  | body (b : ClassBody)
  | batch (records : List ClassRecord)

/-- The records of a submission, if its class can be written. -/
def Submission.records : Submission → Except Failure (List ClassRecord)
  | .raw name content => .ok [.ofBytes name content]
  | .body b => ((ClassRecord.ofBody b).mapError .malformedBody).map fun record => [record]
  | .batch records => .ok records

/-- Registers what is submitted, and answers the outcome of each record. -/
def Registering.submit : Submission → Registering Failure (List Registration)
  | .raw name content => return [← register (.ofBytes name content)]
  | .body b => return [← registerBody b]
  | .batch records => registerAll records

namespace ClassRegistry

def submit (r : ClassRegistry) (s : Submission) :
    Except Failure (List Registration × ClassRegistry) := (Registering.submit s).accepted r

/-- The registry after a submission, also after one that is refused. -/
def afterSubmission (r : ClassRegistry) (s : Submission) : ClassRegistry :=
  ((Registering.submit s).on r).2

def afterSubmissions (r : ClassRegistry) (submissions : List Submission) : ClassRegistry :=
  submissions.foldl afterSubmission r

/-- The outcomes that a submission reports, each with the name that it is about. -/
def report (r : ClassRegistry) (s : Submission) : List (String × Registration) :=
  match s.records, r.submit s with
  | .ok records, .ok (outcomes, _) => (records.map (·.name)).zip outcomes
  | _, _ => []

/-- All that is reported while submissions are made in turn. -/
def reports (r : ClassRegistry) : List Submission → List (String × Registration)
  | [] => []
  | s :: rest => r.report s ++ (r.afterSubmission s).reports rest

/-- The names that a registry does not know, as often as they are given. -/
def unknown (r : ClassRegistry) (records : List ClassRecord) : List String :=
  (records.map (·.name)).filter fun name => !r.contains name

/-- The names that are reported as inserted. -/
def insertedIn (log : List (String × Registration)) : List String :=
  (log.filter fun entry => entry.2 = .inserted).map (·.1)

variable {r r' : ClassRegistry} {s : Submission} {records : List ClassRecord}
  {outcomes : List Registration}

theorem count_inserted (log : List (String × Registration)) :
    (log.map (·.2)).count .inserted = (insertedIn log).length := by
  rw [insertedIn, List.length_map, List.count_eq_countP, List.countP_map, List.countP_eq_length_filter]
  congr 2

theorem count_pair (log : List (String × Registration)) (name : String) :
    log.count (name, .inserted) = (insertedIn log).count name := by
  induction log with
  | nil => rfl
  | cons entry rest ih =>
    obtain ⟨known, outcome⟩ := entry
    unfold insertedIn at ih ⊢
    cases outcome with
    | inserted =>
      by_cases heq : known = name <;> simp [heq, ih]
    | unchanged => simpa using ih

theorem mem_insertedIn {log : List (String × Registration)} {name : String} :
    name ∈ insertedIn log ↔ (name, .inserted) ∈ log := by
  simp [insertedIn]

/-! One submission. -/

/-- A record alone is registered as a batch of one record is. -/
theorem register_on_eq (r : ClassRegistry) (record : ClassRecord) :
    (do return [← Registering.register record] : Registering Failure (List Registration)).on r =
      (Registering.registerAll [record]).on r := by
  rw [Registering.registerAll_on]
  unfold checkAll
  cases hcheck : check r.records record with
  | error e =>
    refine Registering.on_bind_error ?_
    rw [Registering.register_on, hcheck]
  | ok outcome =>
    have hfirst : (Registering.register record).on r =
        (.ok outcome, { r with records := store r.records record outcome }) := by
      rw [Registering.register_on, hcheck]
    exact Registering.on_bind_ok hfirst

/-- A submission whose class can be written is registered as a batch. -/
theorem submit_on (r : ClassRegistry) {s : Submission} {records : List ClassRecord}
    (h : s.records = .ok records) :
    (Registering.submit s).on r = (Registering.registerAll records).on r := by
  cases s with
  | raw name content =>
    cases h
    exact register_on_eq r (.ofBytes name content)
  | batch batch =>
    cases h
    rfl
  | body b =>
    obtain ⟨record, hrecord, rfl⟩ := Checked.map_eq_ok.mp h
    rw [← register_on_eq]
    refine Registering.on_bind_congr ?_ _
    rw [Registering.registerBody_on, hrecord]

theorem submit_on_error (r : ClassRegistry) {s : Submission} {e : Failure}
    (h : s.records = .error e) : (Registering.submit s).on r = (.error e, r) := by
  cases s with
  | raw name content => cases h
  | batch batch => cases h
  | body b =>
    have hrecord : (ClassRecord.ofBody b).mapError Failure.malformedBody = .error e := by
      simp only [Submission.records] at h
      cases hrecord : (ClassRecord.ofBody b).mapError Failure.malformedBody with
      | ok record =>
        rw [hrecord] at h
        cases h
      | error e' =>
        rw [hrecord] at h
        cases h
        rfl
    refine Registering.on_bind_error ?_
    rw [Registering.registerBody_on, hrecord]

theorem submit_ok_iff : r.submit s = .ok (outcomes, r') ↔
    ∃ records, s.records = .ok records ∧ r.registerAll records = .ok (outcomes, r') := by
  unfold submit registerAll
  simp only [Registering.accepted_eq_ok]
  cases hrecords : s.records with
  | error e => simp [submit_on_error r hrecords]
  | ok records => simp [submit_on r hrecords]

/-- What is reported of a record depends on what was known before its submission. -/
theorem registerAll_outcomes (h : r.registerAll records = .ok (outcomes, r')) :
    outcomes = records.map (outcome r.records) := by
  exact checkAll_ok (registerAll_eq_ok.mp h).1

/-- A registry after a batch knows what it knew before and the names of the batch. -/
theorem registerAll_contains (h : r.registerAll records = .ok (outcomes, r')) (name : String) :
    r'.contains name = true ↔ r.contains name = true ∨ name ∈ records.map (·.name) := by
  unfold contains Keyed.contains
  rw [Option.isSome_iff_exists, Option.isSome_iff_exists, List.mem_map]
  constructor
  · rintro ⟨record, hrecord⟩
    rcases registerAll_origin h hrecord with hbefore | hin
    · exact .inl ⟨record, hbefore⟩
    · exact .inr ⟨record, hin⟩
  · rintro (⟨record, hrecord⟩ | ⟨record, hrecord, rfl⟩)
    · exact ⟨record, (registerAll_keeps h).1 name record hrecord⟩
    · obtain ⟨stored, hstored, _⟩ := registerAll_digest h hrecord
      exact ⟨stored, hstored⟩

/-- What one submission does: it is refused and nothing happens, or the names reported as inserted
are those that were unknown before it. -/
theorem submission_cases (r : ClassRegistry) (s : Submission) :
    (r.report s = [] ∧ r.afterSubmission s = r ∧ ¬ ∃ outcomes r', r.submit s = .ok (outcomes, r')) ∨
    ∃ records outcomes r', s.records = .ok records ∧ r.submit s = .ok (outcomes, r') ∧
      r.registerAll records = .ok (outcomes, r') ∧ r.afterSubmission s = r' ∧
      insertedIn (r.report s) = r.unknown records := by
  unfold report afterSubmission
  cases hon : (Registering.submit s).on r with
  | mk result r' =>
  cases result with
  | error e =>
    have hsubmit : r.submit s = .error e := by
      unfold submit Registering.accepted
      rw [hon]
      rfl
    refine .inl ⟨?_, ?_, ?_⟩
    · rw [hsubmit]
      cases s.records <;> rfl
    · cases hrecords : s.records with
      | error e =>
        cases hon.symm.trans (submit_on_error r hrecords)
        rfl
      | ok records => exact Registering.registerAll_error ((submit_on r hrecords).symm.trans hon)
    · rintro ⟨outcomes, r', heq⟩
      cases hsubmit.symm.trans heq
  | ok outcomes =>
    have hsubmit : r.submit s = .ok (outcomes, r') := Registering.accepted_eq_ok.mpr hon
    obtain ⟨records, hrecords, hregister⟩ := submit_ok_iff.mp hsubmit
    refine .inr ⟨records, outcomes, r', hrecords, hsubmit, hregister, rfl, ?_⟩
    have houtcomes := registerAll_outcomes hregister
    subst houtcomes
    rw [hrecords, hsubmit]
    dsimp only
    clear hrecords hregister hsubmit hon
    induction records with
    | nil => rfl
    | cons record rest ih =>
      unfold insertedIn unknown at ih ⊢
      by_cases hknown : r.contains record.name = true
      · simpa [outcome, show r.records.contains record.name = true from hknown, hknown] using ih
      · simpa [outcome, show ¬ r.records.contains record.name = true from hknown, hknown] using ih

theorem afterSubmission_contains (r : ClassRegistry) (s : Submission) (name : String) :
    (r.afterSubmission s).contains name = true ↔
      r.contains name = true ∨ name ∈ insertedIn (r.report s) := by
  rcases submission_cases r s with ⟨hreport, hafter, _⟩ |
    ⟨records, outcomes, r', _, _, hregister, hafter, hinserted⟩
  · rw [hreport, hafter]
    simp [insertedIn]
  · rw [hafter, hinserted, registerAll_contains hregister, unknown, List.mem_filter]
    by_cases hknown : r.contains name = true <;> simp [hknown]

theorem report_unknown {name : String} (h : name ∈ insertedIn (r.report s)) :
    ¬ r.contains name = true := by
  rcases submission_cases r s with ⟨hreport, _⟩ | ⟨records, _, _, _, _, _, _, hinserted⟩
  · rw [hreport] at h
    cases h
  · rw [hinserted, unknown, List.mem_filter] at h
    simpa using h.2

theorem Indexed.afterSubmission (h : Indexed r.records) (s : Submission) :
    Indexed (r.afterSubmission s).records := by
  rcases submission_cases r s with ⟨_, hafter, _⟩ | ⟨_, _, _, _, _, hregister, hafter, _⟩
  · rwa [hafter]
  · rw [hafter]
    exact h.registerAll hregister

/-! Submissions in turn. -/

theorem insertedIn_append (log more : List (String × Registration)) :
    insertedIn (log ++ more) = insertedIn log ++ insertedIn more := by
  rw [insertedIn, List.filter_append, List.map_append]
  rfl

theorem Indexed.afterSubmissions (h : Indexed r.records) (submissions : List Submission) :
    Indexed (r.afterSubmissions submissions).records := by
  induction submissions generalizing r with
  | nil => exact h
  | cons s rest ih => exact ih (h.afterSubmission s)

/-- In the end those names are known that were known before or were reported as inserted. -/
theorem afterSubmissions_contains (r : ClassRegistry) (submissions : List Submission)
    (name : String) : (r.afterSubmissions submissions).contains name = true ↔
      r.contains name = true ∨ name ∈ insertedIn (r.reports submissions) := by
  induction submissions generalizing r with
  | nil => simp [afterSubmissions, reports, insertedIn]
  | cons s rest ih =>
    have hrest := ih (r.afterSubmission s)
    rw [afterSubmission_contains, or_assoc] at hrest
    rw [reports, insertedIn_append, List.mem_append]
    exact hrest

/-- Nothing is inserted that was known. -/
theorem reports_unknown {submissions : List Submission} {name : String}
    (h : name ∈ insertedIn (r.reports submissions)) : ¬ r.contains name = true := by
  induction submissions generalizing r with
  | nil => cases h
  | cons s rest ih =>
    rw [reports, insertedIn_append, List.mem_append] at h
    rcases h with hfirst | hlater
    · exact report_unknown hfirst
    · intro hknown
      exact ih hlater ((afterSubmission_contains r s name).mpr (.inl hknown))

/-- No accepted batch gives a name twice that was unknown before it. -/
def Unrepeated (r : ClassRegistry) (submissions : List Submission) : Prop :=
  ∀ before batch after, submissions = before ++ .batch batch :: after →
    (∃ outcomes r', (r.afterSubmissions before).registerAll batch = .ok (outcomes, r')) →
      ((r.afterSubmissions before).unknown batch).Nodup

/-- Batches whose names differ repeat none. -/
theorem unrepeated_of_nodup {submissions : List Submission}
    (h : ∀ batch, .batch batch ∈ submissions → (batch.map (·.name)).Nodup) :
    r.Unrepeated submissions := by
  intro before batch after heq _
  apply List.Nodup.filter
  apply h
  rw [heq]
  simp

theorem unrepeated_cons (r : ClassRegistry) (s : Submission) (rest : List Submission) :
    r.Unrepeated (s :: rest) ↔
      (insertedIn (r.report s)).Nodup ∧ (r.afterSubmission s).Unrepeated rest := by
  constructor
  · intro h
    refine ⟨?_, fun before batch after heq => h (s :: before) batch after (by rw [heq]; rfl)⟩
    rcases submission_cases r s with ⟨hreport, _⟩ |
      ⟨records, outcomes, r', hrecords, _, hregister, _, hinserted⟩
    · rw [hreport]
      exact List.nodup_nil
    · rw [hinserted]
      cases s with
      | batch batch =>
        cases hrecords
        exact h [] records rest rfl ⟨outcomes, r', hregister⟩
      | raw name content =>
        cases hrecords
        exact (List.nodup_singleton name).filter _
      | body b =>
        obtain ⟨record, _, rfl⟩ := Checked.map_eq_ok.mp hrecords
        exact (List.nodup_singleton record.name).filter _
  · rintro ⟨hfirst, hrest⟩ before batch after heq haccepted
    cases before with
    | cons first before =>
      cases heq
      exact hrest before batch after rfl haccepted
    | nil =>
      cases heq
      obtain ⟨outcomes, r', hregister⟩ := haccepted
      rcases submission_cases r (.batch batch) with ⟨_, _, hrefused⟩ |
        ⟨records, _, _, hrecords, _, _, _, hinserted⟩
      · exact absurd ⟨outcomes, r', hregister⟩ hrefused
      · cases hrecords
        rwa [hinserted] at hfirst

/-- No two submissions insert one name, so a name is inserted twice only within a batch. -/
theorem inserted_nodup_iff (r : ClassRegistry) (submissions : List Submission) :
    (insertedIn (r.reports submissions)).Nodup ↔ r.Unrepeated submissions := by
  induction submissions generalizing r with
  | nil =>
    refine iff_of_true List.nodup_nil ?_
    intro before batch after heq
    exact absurd heq (by simp)
  | cons s rest ih =>
    rw [reports, insertedIn_append, unrepeated_cons, ← ih, List.nodup_append']
    have hdisjoint : (insertedIn (r.report s)).Disjoint
        (insertedIn ((r.afterSubmission s).reports rest)) := by
      intro name hfirst hlater
      have hafter := (afterSubmission_contains r s name).mpr (.inr hfirst)
      exact reports_unknown hlater hafter
    simp [hdisjoint]

/-- What is reported of each record is whether its name was stored before the submission that gives
it. So every stored name is reported as inserted; it is so just once, and there are as many such
reports as stored names, exactly if no accepted batch repeats a name that was new to it. -/
theorem insertions_exact_iff (annotations : AnnotationRegistry) (submissions : List Submission) :
    let start : ClassRegistry := { annotations }
    let final := start.afterSubmissions submissions
    let log := start.reports submissions
    (∀ before s after outcomes r', submissions = before ++ s :: after →
      (start.afterSubmissions before).submit s = .ok (outcomes, r') →
      ∃ records, s.records = .ok records ∧
        outcomes = records.map (outcome (start.afterSubmissions before).records)) ∧
    (∀ name, name ∈ final.names ↔ (name, .inserted) ∈ log) ∧
    ((∀ name ∈ final.names, log.count (name, .inserted) = 1) ↔ start.Unrepeated submissions) ∧
    ((log.map (·.2)).count .inserted = final.names.length ↔ start.Unrepeated submissions) := by
  intro start final log
  have hnames (name : String) : name ∈ final.names ↔ name ∈ insertedIn log := by
    have hboth := afterSubmissions_contains start submissions name
    have hnone : ¬ start.contains name = true := by simp [start, contains, Keyed.contains]
    rw [or_iff_right hnone] at hboth
    exact Keyed.mem_keys_iff.trans hboth
  have hnodup : final.names.Nodup := by
    have hindexed : Indexed start.records := (Reachable.new annotations).indexed
    exact (hindexed.afterSubmissions submissions).ordered.keys_nodup
  have hlength : final.names.length = (insertedIn log).dedup.length := by
    apply List.Perm.length_eq
    apply (List.perm_ext_iff_of_nodup hnodup (List.nodup_dedup _)).mpr
    intro name
    rw [hnames, List.mem_dedup]
  refine ⟨?_, ?_, ?_, ?_⟩
  · intro before s after outcomes r' _ hsubmit
    obtain ⟨records, hrecords, hregister⟩ := submit_ok_iff.mp hsubmit
    exact ⟨records, hrecords, registerAll_outcomes hregister⟩
  · intro name
    rw [hnames, mem_insertedIn]
  · rw [← inserted_nodup_iff, List.nodup_iff_count_eq_one]
    simp only [hnames, count_pair]
    rfl
  · rw [← inserted_nodup_iff, count_inserted, hlength]
    constructor
    · intro heq
      have hsame := (List.dedup_sublist (insertedIn log)).eq_of_length heq.symm
      exact List.dedup_eq_self.mp hsame
    · intro hdistinct
      rw [List.dedup_eq_self.mpr hdistinct]

/-- Two classes in a batch, and one of them again. -/
theorem insertions_exact_iff_pair :
    let pair : List ClassRecord := [.ofBytes "app.Pair" [1], .ofBytes "app.Twin" [2]]
    let submissions : List Submission := [.batch pair, .raw "app.Twin" [2]]
    let start : ClassRegistry := {}
    let log := start.reports submissions
    (∃ r', start.submit (.batch pair) = .ok ([.inserted, .inserted], r')) ∧
    (∀ name ∈ (start.afterSubmissions submissions).names, log.count (name, .inserted) = 1) ∧
    (log.map (·.2)).count .inserted = (start.afterSubmissions submissions).names.length := by
  intro pair submissions start log
  have hnames : (pair.map (·.name)).Nodup := by decide
  have hnew : ∀ record ∈ pair, start.records.get? record.name = none := fun _ _ => rfl
  have hdistinct : start.Unrepeated submissions := by
    apply unrepeated_of_nodup
    intro batch hbatch
    rcases List.mem_cons.mp hbatch with heq | hrest
    · cases heq
      exact hnames
    · exact absurd (List.mem_singleton.mp hrest) (by simp)
  obtain ⟨houtcomes, _, honce, hcount⟩ := insertions_exact_iff .builtin submissions
  obtain ⟨outcomes, r', hregister⟩ := registerAll_new hnames hnew
  obtain ⟨records, hrecords, heq⟩ := houtcomes [] (.batch pair) _ outcomes r' rfl hregister
  cases hrecords
  have hboth : outcomes = [.inserted, .inserted] := heq
  exact ⟨⟨r', hboth ▸ hregister⟩, honce.mpr hdistinct, hcount.mpr hdistinct⟩

/-- A new class twice in one batch is inserted twice and stored once. -/
theorem repeated_inserted :
    let twice : List ClassRecord := [.ofBytes "app.Twin" [0], .ofBytes "app.Twin" [0]]
    let start : ClassRegistry := {}
    let final := start.afterSubmissions [.batch twice]
    start.reports [.batch twice] = [("app.Twin", .inserted), ("app.Twin", .inserted)] ∧
      final.names = ["app.Twin"] ∧
      ((start.reports [.batch twice]).map (·.2)).count .inserted ≠ final.names.length := by
  intro twice start final
  have hcheck : checkAll start.records [] twice = .ok [.inserted, .inserted] := by
    rw [checkAll_cons_agrees (agrees_nil _) (agrees_nil _), checkAll_cons_agrees _ (agrees_nil _)]
    · rfl
    · intro earlier hearlier
      cases hearlier
      rfl
  have hon : (Registering.submit (.batch twice)).on start = _ := registerAll_passed hcheck
  have hsubmit : start.submit (.batch twice) = _ := Registering.accepted_eq_ok.mpr hon
  have hlog : start.reports [.batch twice] = [("app.Twin", .inserted), ("app.Twin", .inserted)] := by
    unfold reports report
    rw [hsubmit]
    rfl
  have hnames : final.names = ["app.Twin"] := by
    change (start.afterSubmission (.batch twice)).names = _
    unfold afterSubmission
    rw [hon]
    rfl
  refine ⟨hlog, hnames, ?_⟩
  rw [hlog, hnames]
  decide

end ClassRegistry

end EntityForge
