import EntityForge.Proofs.Generated.Completion
import EntityForge.Proofs.Registry.Batches
import EntityForge.Proofs.Registry.Merging
import Mathlib.Data.List.Pairwise

/-!
Passes and batches are registered as a whole. A batch or a pass that fails leaves the registry as it
was, while records registered one after the other would stay up to the first conflict. One that
succeeds has stored all of its records, and doing it again changes nothing.
-/

namespace EntityForge

namespace Generator

variable {g : Generator} {r r' : ClassRegistry} {c : ClassMeta} {generated : GeneratedEntity}

/-- A pass fails over a class that cannot be planned, or at the registration of its plan. In either
case it leaves the registry as it was. -/
theorem pass_error {e : GenerationError} (h : (g.pass c).on r = (.error e, r')) :
    r' = r ∧ (g.plan r.annotations c = .error e ∨
      ∃ planned failure, g.plan r.annotations c = .ok planned ∧ e = .failure failure ∧
        (Registering.registerAll planned.records).on r = (.error failure, r)) := by
  rw [pass_on] at h
  cases hplan : g.plan r.annotations c with
  | error e' =>
    rw [hplan] at h
    cases h
    exact ⟨rfl, .inl rfl⟩
  | ok planned =>
    rw [hplan] at h
    dsimp only at h
    split at h
    · cases h
    · next failure r'' hrefused =>
      cases h
      obtain rfl := Registering.registerAll_error hrefused
      exact ⟨rfl, .inr ⟨planned, failure, rfl, rfl, hrefused⟩⟩

/-- A pass fails where other bytes stand under the name of a record that it makes. -/
theorem pass_conflicts {record known : ClassRecord}
    (hplan : g.plan r.annotations c = .ok generated) (hrecord : record ∈ generated.records)
    (hknown : r.records.get? record.name = some known) (hne : known.digest ≠ record.digest) :
    ∃ e, (g.pass c).on r = (.error e, r) := by
  cases hon : (g.pass c).on r with
  | mk result r' =>
    cases result with
    | error e =>
      obtain ⟨rfl, _⟩ := pass_error hon
      exact ⟨e, rfl⟩
    | ok again =>
      obtain ⟨hplan', _, hregister⟩ := generate_ok_iff.mp (Registering.accepted_eq_ok.mpr hon)
      cases hplan.symm.trans hplan'
      obtain ⟨stored, hstored, hdigest⟩ := ClassRegistry.registerAll_digest hregister hrecord
      obtain ⟨hkeeps, _⟩ := ClassRegistry.registerAll_keeps hregister
      cases (hkeeps _ _ hknown).symm.trans hstored
      exact absurd hdigest hne

/-- A pass that failed is reported, and leaves the registry as it was. -/
theorem generateNext_error {e : GenerationError} (h : (g.pass c).on r = (.error e, r'))
    (report : GenerationReport) :
    g.generateNext (report, r) c =
      ({ report with failures := report.failures ++ [(c.name, e)] }, r) := by
  obtain ⟨rfl, _⟩ := pass_error h
  simp only [generateNext, h]

theorem generateNext_ok (h : (g.pass c).on r = (.ok generated, r')) (report : GenerationReport) :
    g.generateNext (report, r) c =
      ({ report with successes := report.successes ++ [generated] }, r') := by
  simp only [generateNext, h]

/-- Every record of a pass stands in the registry after it. -/
theorem generate_holds (hindexed : ClassRegistry.Indexed r.records)
    (hdigests : ClassRegistry.DigestsSeparate r.records generated.records)
    (h : g.generate r c = .ok (generated, r')) :
    ∀ record ∈ generated.records, r'.records.get? record.name = some record := by
  obtain ⟨_, _, hregister⟩ := generate_ok_iff.mp h
  exact fun _ => ClassRegistry.registerAll_holds hindexed hdigests hregister

/-- The accessor class that a pass makes for a property is registered under its name. -/
theorem registers_accessor (hreach : r.Reachable)
    (hdigests : ClassRegistry.DigestsSeparate r.records generated.records)
    (h : g.generate r c = .ok (generated, r')) {p : Property} (hp : p ∈ generated.entity.properties) :
    ∃ accessor, g.mode.backend.accessorClass generated.entity p = .ok accessor ∧
      accessor.name = GeneratedName.accessor generated.entity.name p.name ∧
      r'.records.get? accessor.name = some accessor := by
  have hholds := generate_holds hreach.indexed hdigests h
  obtain ⟨hplan, _⟩ := generate_ok_iff.mp h
  obtain ⟨e, _, hplan⟩ := Checked.bind_eq_ok.mp hplan
  obtain ⟨entityClass, _, hplan⟩ := Checked.bind_eq_ok.mp hplan
  obtain ⟨accessors, haccessors, hplan⟩ := Checked.bind_eq_ok.mp hplan
  obtain ⟨propertyModels, _, hplan⟩ := Checked.bind_eq_ok.mp hplan
  obtain ⟨entityModel, _, hplan⟩ := Checked.bind_eq_ok.mp hplan
  cases hplan
  obtain ⟨accessor, hmem, hmade⟩ := Checked.forall₂_mem_left (Checked.mapM_eq_ok.mp haccessors) hp
  refine ⟨accessor, hmade, ?_, hholds accessor (by simp [hmem])⟩
  exact (Backend.accessorClass_encodes hmade).1.name.trans
    (Backend.accessorBody_name _ ⟨e.name, p⟩)

/-- A second pass makes the same records, which are there already. -/
theorem generate_again (hindexed : ClassRegistry.Indexed r.records)
    (hdigests : ClassRegistry.DigestsSeparate r.records generated.records)
    (h : g.generate r c = .ok (generated, r')) : g.generate r' c = .ok (generated, r') := by
  obtain ⟨hplan, _, hregister⟩ := generate_ok_iff.mp h
  obtain ⟨_, _, hannotations⟩ := ClassRegistry.registerAll_keeps hregister
  rw [← hannotations] at hplan
  have hholds := generate_holds hindexed hdigests h
  exact generate_ok_iff.mpr
    ⟨hplan, _, Registering.accepted_eq_ok.mpr (ClassRegistry.registerAll_again hholds)⟩

end Generator

namespace ClassRegistry

/-- Registration is atomic. A batch, in which names may repeat, is registered exactly if its records
could be registered one after the other: then with the same registry in the end, in which no known
record is replaced; else it fails with the conflict at which the others would stop, and the registry
is the one before it. So a pass that fails, at its plan or at a conflict, leaves the registry as it
was; one that succeeds has stored all of its records, and a second one answers the same and changes
nothing. -/
theorem registration_atomic {r : ClassRegistry} (hreach : r.Reachable) :
    (∀ batch, DigestsSeparate r.records batch →
      match (Registering.registerAll batch).on r with
      | (.ok outcomes, r') =>
        (Registering.registerEach batch).on r = (.ok (), r') ∧ Keeps r.records r'.records ∧
          List.Forall₂ (fun record outcome =>
            outcome = if r.contains record.name then .unchanged else .inserted) batch outcomes
      | (.error e, r') =>
        r' = r ∧ (∃ name, e = .bodyConflict name) ∧
          ((Registering.registerEach batch).on r).1 = .error e) ∧
    ∀ (g : Generator) (c : ClassMeta),
      (∀ planned, g.plan r.annotations c = .ok planned →
        DigestsSeparate r.records planned.records) →
      match (g.pass c).on r with
      | (.ok generated, r') =>
        g.plan r.annotations c = .ok generated ∧
          (Registering.registerEach generated.records).on r = (.ok (), r') ∧
          Keeps r.records r'.records ∧
          (∀ record ∈ generated.records, r'.records.get? record.name = some record) ∧
          (g.pass c).on r' = (.ok generated, r')
      | (.error e, r') =>
        r' = r ∧ (g.plan r.annotations c = .error e ∨
          ∃ planned name, g.plan r.annotations c = .ok planned ∧ e = .failure (.bodyConflict name) ∧
            ((Registering.registerEach planned.records).on r).1 = .error (.bodyConflict name)) := by
  have hindexed := hreach.indexed
  constructor
  · intro batch hdigests
    rcases registerAll_cases hindexed hdigests with ⟨r', hon, heach⟩ | ⟨name, hon, heach⟩
    · have hkeeps := (registerAll_keeps (Registering.accepted_eq_ok.mpr hon)).1
      rw [hon]
      refine ⟨heach, hkeeps, ?_⟩
      rw [List.forall₂_map_right_iff]
      exact List.forall₂_same.mpr fun _ _ => rfl
    · rw [hon]
      exact ⟨rfl, ⟨name, rfl⟩, heach⟩
  · intro g c hdigests
    cases hon : (g.pass c).on r with
    | mk result r' =>
      cases result with
      | error e =>
        obtain ⟨hsame, hfailed⟩ := Generator.pass_error hon
        refine ⟨hsame, hfailed.imp_right ?_⟩
        rintro ⟨planned, failure, hplan, rfl, hrefused⟩
        rcases registerAll_cases hindexed (hdigests planned hplan) with
          ⟨_, hpassed, _⟩ | ⟨name, hconflict, heach⟩
        · cases hpassed.symm.trans hrefused
        · cases hconflict.symm.trans hrefused
          exact ⟨planned, name, hplan, rfl, heach⟩
      | ok generated =>
        have hgenerate : g.generate r c = .ok (generated, r') := Registering.accepted_eq_ok.mpr hon
        obtain ⟨hplan, _, hregister⟩ := Generator.generate_ok_iff.mp hgenerate
        have hseparate := hdigests generated hplan
        have heach : (Registering.registerEach generated.records).on r = (.ok (), r') := by
          rcases registerAll_cases hindexed hseparate with ⟨_, hpassed, heach⟩ | ⟨_, hconflict, _⟩
          · cases hpassed.symm.trans (Registering.accepted_eq_ok.mp hregister)
            exact heach
          · cases hconflict.symm.trans (Registering.accepted_eq_ok.mp hregister)
        exact ⟨hplan, heach, (registerAll_keeps hregister).1,
          Generator.generate_holds hindexed hseparate hgenerate,
          Registering.accepted_eq_ok.mp (Generator.generate_again hindexed hseparate hgenerate)⟩

/-- There is a record under any name whose digest is another one. -/
private theorem exists_digest_ne (record : ClassRecord) :
    ∃ other : ClassRecord, other.name = record.name ∧ other.digest ≠ record.digest := by
  by_cases hzero : Sha256.digest [0] = record.digest
  · have hone : Sha256.digest [1] ≠ Sha256.digest [0] := by decide +kernel
    exact ⟨.ofBytes record.name [1], rfl, fun heq => hone (heq.trans hzero.symm)⟩
  · exact ⟨.ofBytes record.name [0], rfl, hzero⟩

/-- Where nothing is registered yet, digests have to tell apart the records of the batch only. -/
private theorem digestsSeparate_within {batch : List ClassRecord}
    (h : ∀ record ∈ batch, ∀ other ∈ batch,
      other.digest = record.digest → other.bytes = record.bytes) : DigestsSeparate [] batch := by
  intro record hrecord other hother
  rcases hother with hknown | ⟨hmem, _⟩
  · cases hknown
  · exact h record hrecord other hmem

/-- Digests that tell apart the records of a batch tell them apart from another digest, too. -/
private theorem digestsSeparate_behind {model other : ClassRecord} {batch : List ClassRecord}
    (hdigests : DigestsSeparate [] batch)
    (hunique : ∀ record ∈ batch, record.name = model.name → record = model)
    (hname : other.name = model.name) (hne : other.digest ≠ model.digest) :
    DigestsSeparate (Keyed.insert other.name other []) batch := by
  intro record hrecord earlier hearlier hdigest
  rcases hearlier with hstored | hmade
  · rw [Keyed.get?_insert] at hstored
    split at hstored
    · next heq =>
      cases hstored
      rw [hunique record hrecord (heq.trans hname)] at hdigest
      exact absurd hdigest hne
    · cases hstored
  · exact hdigests record hrecord earlier (.inr hmade) hdigest

/-- In a new registry a name may occur twice with the same bytes. With other bytes the batch is
refused, also where the records before the conflict could have been stored. -/
private theorem batches_new :
    let a := ClassRecord.ofBytes "app.A" [1]
    let b := ClassRecord.ofBytes "app.B" [1]
    let a' := ClassRecord.ofBytes "app.A" [2]
    (∃ r', (Registering.registerAll [a, a]).on {} = (.ok [.inserted, .inserted], r')) ∧
      (Registering.registerAll [a, b, a']).on {} = (.error (.bodyConflict "app.A"), {}) := by
  intro a b a'
  constructor
  · have hself : Agrees (Keyed.insert a.name a []) a := by
      intro known hknown
      rw [Keyed.get?_insert_self] at hknown
      cases hknown
      rfl
    have hcheck : checkAll [] [] [a, a] = .ok [.inserted, .inserted] := by
      rw [checkAll_cons_agrees (agrees_nil a) (agrees_nil a),
        checkAll_cons_agrees hself (agrees_nil a)]
      rfl
    exact ⟨_, registerAll_passed hcheck⟩
  · have hother : ¬ Agrees (Keyed.insert b.name b (Keyed.insert a.name a [])) a' := by
      intro hagrees
      have hsame : Sha256.digest [1] = Sha256.digest [2] := by
        refine hagrees a ?_
        rw [Keyed.get?_insert_of_ne (by decide : a'.name ≠ b.name)]
        exact Keyed.get?_insert_self a.name a []
      exact absurd hsame (by decide +kernel)
    have hseen : Agrees (Keyed.insert a.name a []) b := by
      intro known hknown
      rw [Keyed.get?_insert_of_ne (by decide : b.name ≠ a.name)] at hknown
      cases hknown
    have hcheck : checkAll [] [] [a, b, a'] = .error (.bodyConflict "app.A") := by
      rw [checkAll_cons_agrees (agrees_nil a) (agrees_nil a),
        checkAll_cons_agrees hseen (agrees_nil b),
        checkAll_cons_conflicts fun hboth => hother hboth.1]
      rfl
    exact registerAll_refused hcheck

/-- In a new registry: a batch in which a name occurs twice with the same bytes; one in which it
occurs with other bytes, and of which the first two records alone would be stored; a pass over a
class of one field, done twice, and the same pass where other bytes stand under the name of the last
class that it makes. -/
theorem registration_atomic_new :
    let a := ClassRecord.ofBytes "app.A" [1]
    let b := ClassRecord.ofBytes "app.B" [1]
    let a' := ClassRecord.ofBytes "app.A" [2]
    let pass := (Generator.mk {} .runtime).pass (Counter.classMeta "app.Counter" none)
    (∃ r', (Registering.registerAll [a, a]).on {} = (.ok [.inserted, .inserted], r') ∧
      (Registering.registerEach [a, a]).on {} = (.ok (), r')) ∧
    ((Registering.registerAll [a, b, a']).on {} = (.error (.bodyConflict "app.A"), {}) ∧
      ((Registering.registerEach [a, b, a']).on {}).1 = .error (.bodyConflict "app.A") ∧
      ((Registering.registerEach [a, b, a']).on {}).2.names = ["app.A", "app.B"]) ∧
    ∃ generated r' other r₁ name,
      pass.on {} = (.ok generated, r') ∧
      (∀ record ∈ generated.records, r'.records.get? record.name = some record) ∧
      pass.on r' = (.ok generated, r') ∧
      other.name = generated.entityModelClass ∧
      (Registering.register other).on {} = (.ok .inserted, r₁) ∧
      pass.on r₁ = (.error (.failure (.bodyConflict name)), r₁) := by
  intro a b a' pass
  obtain ⟨hbatch, hpass⟩ := registration_atomic (.new .builtin)
  obtain ⟨⟨r', htwice⟩, hrefused⟩ := batches_new
  refine ⟨⟨r', htwice, ?_⟩, ⟨hrefused, ?_, by decide +kernel⟩, ?_⟩
  · have hagreed := hbatch [a, a] (digestsSeparate_within (by decide +kernel))
    rw [htwice] at hagreed
    exact hagreed.1
  · have hagreed := hbatch [a, b, a'] (digestsSeparate_within (by decide +kernel))
    rw [hrefused] at hagreed
    exact hagreed.2.2
  · have hchecks : Counter.Checks .runtime "app.Counter" none := by decide +kernel
    obtain ⟨generated, r', hgenerate, hentity, hdigests, _, hinstalls⟩ :=
      Counter.generates hchecks
    obtain ⟨hplan, _⟩ := Generator.generate_ok_iff.mp hgenerate
    have hon : pass.on {} = (.ok generated, r') := Registering.accepted_eq_ok.mp hgenerate
    have hagreed := hpass (Generator.mk {} .runtime) (Counter.classMeta "app.Counter" none) (by
      intro planned hplanned
      cases hplan.symm.trans hplanned
      exact hdigests)
    rw [show (Generator.pass _ _).on {} = _ from hon] at hagreed
    obtain ⟨_, _, _, hholds, hagain⟩ := hagreed
    obtain ⟨model, hmodel, hencodes⟩ := Checked.forall₂_mem_right hinstalls.makes.records
      (List.mem_append_right _ (List.mem_singleton_self _))
    have hunique : ∀ record ∈ generated.records, record.name = model.name → record = model := by
      intro record hrecord hname
      have hsame := hholds record hrecord
      rw [hname, hholds model hmodel] at hsame
      exact (Option.some.inj hsame).symm
    -- Other bytes are registered under the name of the model first.
    obtain ⟨other, hname, hne⟩ := exists_digest_ne model
    have hother : (Registering.register other).on {} =
        (.ok .inserted, { records := Keyed.insert other.name other [] }) := by
      rw [Registering.register_on]
      rfl
    obtain ⟨_, hrefusal⟩ := registration_atomic
      (.register (.new .builtin) (Registering.accepted_eq_ok.mpr hother))
    have hrefused := hrefusal (Generator.mk {} .runtime) (Counter.classMeta "app.Counter" none) (by
      intro planned hplanned
      cases hplan.symm.trans hplanned
      exact digestsSeparate_behind hdigests hunique hname hne)
    have hlast : other.name = generated.entityModelClass := by
      rw [hinstalls.makes.modelClass, hentity, hname]
      exact hencodes.name
    have hstored : Keyed.get? (Keyed.insert other.name other []) model.name = some other := by
      rw [← hname]
      exact Keyed.get?_insert_self _ _ _
    obtain ⟨e, hagainst⟩ := Generator.pass_conflicts
      (r := { records := Keyed.insert other.name other [] }) hplan hmodel hstored hne
    rw [hagainst] at hrefused
    obtain ⟨_, hunplanned | ⟨_, name, _, rfl, _⟩⟩ := hrefused
    · cases hplan.symm.trans hunplanned
    · exact ⟨generated, r', other, _, name, hon, hholds, hagain, hlast, hother, hagainst⟩

end ClassRegistry

end EntityForge

/-!
Generating several entities. As long as no two plans hold different bytes under one name, what a pass
over a class answers does not depend on the passes before it, and the registry in the end holds what
all passes that succeeded add to the one from which they started.
-/

namespace EntityForge

/-- The report on classes, with what the passes over them answered. -/
def GenerationReport.ofAnswers
    (entries : List (ClassMeta × Except GenerationError GeneratedEntity)) : GenerationReport where
  successes := entries.filterMap fun (_, answer) => answer.toOption
  failures := entries.filterMap fun (c, answer) =>
    match answer with
    | .ok _ => none
    | .error e => some (c.name, e)

namespace Generator

variable {g : Generator} {r m : ClassRegistry} {c c' : ClassMeta} {classes : List ClassMeta}
  {generated generated' : GeneratedEntity} {e : GenerationError}
  {done : List (List ClassRecord)}

/-- What a pass over a class answers, apart from the registry that it leaves. -/
def answer (g : Generator) (r : ClassRegistry) (c : ClassMeta) :
    Except GenerationError GeneratedEntity := ((g.pass c).on r).1

theorem answer_of_pass {answered : Except GenerationError GeneratedEntity}
    (h : (g.pass c).on r = (answered, m)) : g.answer r c = answered := by
  unfold answer
  rw [h]

theorem answer_ok_iff :
    g.answer r c = .ok generated ↔ g.plan r.annotations c = .ok generated ∧
      ∃ outcomes r', r.registerAll generated.records = .ok (outcomes, r') := by
  constructor
  · intro h
    obtain ⟨hplan, outcomes, hregister⟩ :=
      generate_ok_iff.mp (Registering.accepted_eq_ok.mpr (Prod.ext h rfl))
    exact ⟨hplan, outcomes, _, hregister⟩
  · rintro ⟨hplan, outcomes, r', hregister⟩
    exact answer_of_pass (pass_done hplan (Registering.accepted_eq_ok.mp hregister))

/-- No two plans of the classes hold different bytes under one name. -/
def Consistent (g : Generator) (annotations : AnnotationRegistry) (classes : List ClassMeta) :
    Prop :=
  classes.Pairwise fun c c' => ∀ planned planned', g.plan annotations c = .ok planned →
    g.plan annotations c' = .ok planned' →
    ∀ x ∈ planned.records, ∀ y ∈ planned'.records, x.name = y.name → x.bytes = y.bytes

theorem Consistent.compatible {annotations : AnnotationRegistry}
    (h : g.Consistent annotations classes) (hc : c ∈ classes) (hc' : c' ∈ classes)
    (hplan : g.plan annotations c = .ok generated)
    (hplan' : g.plan annotations c' = .ok generated') :
    ClassRegistry.Compatible generated.records generated'.records := by
  have hall : ∀ c ∈ classes, ∀ c' ∈ classes, ∀ planned planned',
      g.plan annotations c = .ok planned → g.plan annotations c' = .ok planned' →
        ClassRegistry.Compatible planned.records planned'.records := by
    refine List.Pairwise.forall_of_forall_of_flip ?_ (h.imp ?_) (h.imp ?_)
    · intro c _ planned planned' hplan hplan'
      cases hplan.symm.trans hplan'
      exact .inl rfl
    · exact fun hboth planned planned' hplan hplan' =>
        .inr (hboth planned planned' hplan hplan')
    · exact fun hboth planned planned' hplan hplan' =>
        .symm (.inr (hboth planned' planned hplan' hplan))
  exact hall c hc c' hc' generated generated' hplan hplan'

/-- The batches that passes over classes register. -/
def made (g : Generator) (r : ClassRegistry) (classes : List ClassMeta) :
    List (List ClassRecord) :=
  classes.filterMap fun c => (g.answer r c).toOption.map (·.records)

theorem mem_made {batch : List ClassRecord} :
    batch ∈ g.made r classes ↔
      ∃ c ∈ classes, ∃ generated, g.answer r c = .ok generated ∧ generated.records = batch := by
  unfold made
  simp only [List.mem_filterMap, Option.map_eq_some_iff]
  refine exists_congr fun c => and_congr_right fun _ => exists_congr fun generated => ?_
  cases g.answer r c <;> simp [Except.toOption]

/-- A pass after others answers what it would have answered at the start. -/
theorem pass_merged (h : ClassRegistry.Merged r done m)
    (hcompatible : ∀ planned, g.plan r.annotations c = .ok planned →
      ∀ other ∈ done, ClassRegistry.Compatible planned.records other) :
    (∃ generated m', (g.pass c).on m = (.ok generated, m') ∧ g.answer r c = .ok generated ∧
      ClassRegistry.Merged r (done ++ [generated.records]) m') ∨
    ∃ e, (g.pass c).on m = (.error e, m) ∧ g.answer r c = .error e := by
  cases hplan : g.plan r.annotations c with
  | error e =>
    have hplan' : g.plan m.annotations c = .error e := h.annotations ▸ hplan
    exact .inr ⟨e, pass_unplanned hplan', answer_of_pass (pass_unplanned hplan)⟩
  | ok planned =>
    have hplan' : g.plan m.annotations c = .ok planned := h.annotations ▸ hplan
    rcases h.registerAll (hcompatible planned hplan) with
      ⟨outcomes, outcomes', r', m', hregister', hregister, hmerged⟩ | ⟨name, hrefuse', hrefuse⟩
    · exact .inl ⟨planned, m', pass_done hplan' hregister',
        answer_of_pass (pass_done hplan hregister), hmerged⟩
    · exact .inr ⟨.failure (.bodyConflict name), pass_refused hplan' hrefuse',
        answer_of_pass (pass_refused hplan hrefuse)⟩

/-- Passes one after the other: each answers as it would have at the start, and the registry is
merged from the batches of those that succeeded. -/
theorem generateAll_merged (hindexed : ClassRegistry.Indexed r.records)
    (hconsistent : g.Consistent r.annotations classes) :
    (g.generateAll r classes).1 = .ofAnswers (classes.map fun c => (c, g.answer r c)) ∧
      ClassRegistry.Merged r (g.made r classes) (g.generateAll r classes).2 := by
  suffices hrest : ∀ (before after : List ClassMeta) (m : ClassRegistry), before ++ after = classes →
      ClassRegistry.Merged r (g.made r before) m →
      (after.foldl g.generateNext (.ofAnswers (before.map fun c => (c, g.answer r c)), m)).1 =
          .ofAnswers (classes.map fun c => (c, g.answer r c)) ∧
        ClassRegistry.Merged r (g.made r classes)
          (after.foldl g.generateNext (.ofAnswers (before.map fun c => (c, g.answer r c)), m)).2
    from hrest [] classes r rfl (.start hindexed)
  intro before after m hsplit hmerged
  induction after generalizing before m with
  | nil =>
    rw [List.append_nil] at hsplit
    subst hsplit
    exact ⟨rfl, hmerged⟩
  | cons c after ih =>
    have hsplit' : (before ++ [c]) ++ after = classes := by rw [List.append_assoc]; exact hsplit
    have hmem : ∀ other ∈ before ++ [c], other ∈ classes :=
      fun other hother => hsplit' ▸ List.mem_append_left after hother
    have hcompatible : ∀ planned, g.plan r.annotations c = .ok planned →
        ∀ other ∈ g.made r before, ClassRegistry.Compatible planned.records other := by
      intro planned hplan other hother
      obtain ⟨c', hc', generated', hanswer, rfl⟩ := mem_made.mp hother
      exact hconsistent.compatible (hmem c (by simp)) (hmem c' (by simp [hc'])) hplan
        (answer_ok_iff.mp hanswer).1
    rw [List.foldl_cons]
    rcases pass_merged hmerged hcompatible with
      ⟨generated, m', hpass, hanswer, hmerged'⟩ | ⟨e, hpass, hanswer⟩
    · rw [generateNext_ok hpass]
      have hreport : { GenerationReport.ofAnswers (before.map fun c => (c, g.answer r c)) with
          successes := (GenerationReport.ofAnswers
            (before.map fun c => (c, g.answer r c))).successes ++ [generated] } =
          GenerationReport.ofAnswers ((before ++ [c]).map fun c => (c, g.answer r c)) := by
        simp [GenerationReport.ofAnswers, hanswer, Except.toOption]
      have hmade : g.made r before ++ [generated.records] = g.made r (before ++ [c]) := by
        simp [made, hanswer, Except.toOption]
      rw [hreport]
      exact ih (before ++ [c]) m' hsplit' (hmade ▸ hmerged')
    · rw [generateNext_error hpass]
      have hreport : { GenerationReport.ofAnswers (before.map fun c => (c, g.answer r c)) with
          failures := (GenerationReport.ofAnswers
            (before.map fun c => (c, g.answer r c))).failures ++ [(c.name, e)] } =
          GenerationReport.ofAnswers ((before ++ [c]).map fun c => (c, g.answer r c)) := by
        simp [GenerationReport.ofAnswers, hanswer, Except.toOption]
      have hmade : g.made r before = g.made r (before ++ [c]) := by
        simp [made, hanswer, Except.toOption]
      rw [hreport]
      exact ih (before ++ [c]) m hsplit' (hmade ▸ hmerged)

end Generator

end EntityForge
