import EntityForge.Proofs.Registry.Registration
import EntityForge.Proofs.Text.Keyed

/-!
Batches. Registering several records together does what registering them one after the other does,
as long as digests tell the bytes apart: it fails at the same record for the same reason, and else
it leaves the same registry. A batch that was registered once may be registered again, which changes
nothing.
-/

namespace EntityForge

/-- A record is determined by its name and its bytes. -/
theorem ClassRecord.eq_of_bytes {a b : ClassRecord} (hname : a.name = b.name)
    (hbytes : a.bytes = b.bytes) : a = b := by
  obtain ⟨name, bytes, digest, rfl⟩ := a
  obtain ⟨name', bytes', digest', rfl⟩ := b
  cases hname
  cases hbytes
  rfl

/-- Registers records one after the other, up to the first one that conflicts. -/
def Registering.registerEach : List ClassRecord → Registering Failure Unit
  | [] => return
  | record :: rest => do
    let _ ← register record
    registerEach rest

namespace ClassRegistry

/-! Records stand under their names, in order. -/

/-- A table in order whose records stand under their own names. -/
structure Indexed (records : Keyed ClassRecord) : Prop where
  ordered : records.Ordered
  named : ∀ name record, records.get? name = some record → record.name = name

variable {r r' : ClassRegistry} {records stored seen : Keyed ClassRecord}
  {record : ClassRecord} {batch all : List ClassRecord}

theorem Indexed.store (h : Indexed records) (record : ClassRecord) (outcome : Registration) :
    Indexed (store records record outcome) := by
  cases outcome with
  | unchanged => exact h
  | inserted =>
    refine ⟨h.ordered.insert _ _, ?_⟩
    intro name found hfound
    change (records.insert record.name record).get? name = some found at hfound
    rw [Keyed.get?_insert] at hfound
    split at hfound
    · next heq =>
      cases hfound
      exact heq.symm
    · exact h.named name found hfound

theorem Indexed.storeAll (h : Indexed records) (entries : List (ClassRecord × Registration)) :
    Indexed (ClassRegistry.storeAll records entries) := by
  induction entries generalizing records with
  | nil => exact h
  | cons entry rest ih => exact ih (h.store entry.1 entry.2)

theorem Indexed.registerAll {outcomes : List Registration} (h : Indexed r.records)
    (hregister : r.registerAll batch = .ok (outcomes, r')) : Indexed r'.records := by
  obtain ⟨_, rfl⟩ := registerAll_eq_ok.mp hregister
  exact h.storeAll _

theorem Reachable.indexed (h : r.Reachable) : Indexed r.records := by
  induction h with
  | new annotations => exact ⟨.nil, nofun⟩
  | register _ hstored ih =>
    obtain ⟨_, rfl⟩ := register_eq_ok.mp hstored
    exact ih.store _ _
  | registerAll _ hstored ih => exact ih.registerAll hstored
  | load _ _ ih => exact ih

/-- A batch that passes the check is stored. -/
theorem registerAll_passed {outcomes : List Registration}
    (h : checkAll r.records [] batch = .ok outcomes) :
    (Registering.registerAll batch).on r =
      (.ok outcomes, { r with records := storeAll r.records (batch.zip outcomes) }) := by
  rw [Registering.registerAll_on, h]

/-- A batch that does not pass the check leaves the registry as it was. -/
theorem registerAll_refused {e : Failure} (h : checkAll r.records [] batch = .error e) :
    (Registering.registerAll batch).on r = (.error e, r) := by
  rw [Registering.registerAll_on, h]

/-! One record. -/

/-- What a registration does with a record that does not conflict. -/
def outcome (records : Keyed ClassRecord) (record : ClassRecord) : Registration :=
  if records.contains record.name then .unchanged else .inserted

/-- Nothing but the same digest is known under the name of a record. -/
def Agrees (records : Keyed ClassRecord) (record : ClassRecord) : Prop :=
  ∀ known, records.get? record.name = some known → known.digest = record.digest

theorem agrees_nil (record : ClassRecord) : Agrees [] record := nofun

theorem outcome_none (h : records.get? record.name = none) : outcome records record = .inserted := by
  simp [outcome, Keyed.contains, h]

theorem outcome_some {known : ClassRecord} (h : records.get? record.name = some known) :
    outcome records record = .unchanged := by
  simp [outcome, Keyed.contains, h]

theorem check_agrees (h : Agrees records record) :
    check records record = .ok (outcome records record) := by
  unfold check
  cases hknown : records.get? record.name with
  | none => rw [outcome_none hknown]
  | some known => simp only [outcome_some hknown, if_pos (h known hknown)]

theorem check_conflicts (h : ¬ Agrees records record) :
    check records record = .error (.bodyConflict record.name) := by
  unfold check
  cases hknown : records.get? record.name with
  | none => exact absurd (fun known hsome => nomatch hknown.symm.trans hsome) h
  | some known =>
    have hne : known.digest ≠ record.digest := by
      intro heq
      refine h fun other hother => ?_
      cases hknown.symm.trans hother
      exact heq
    simp only [if_neg hne]

/-! Several records. -/

theorem registerEach_cons_agrees (h : Agrees stored record) (rest : List ClassRecord) :
    (Registering.registerEach (record :: rest)).on { r with records := stored } =
      (Registering.registerEach rest).on
        { r with records := store stored record (outcome stored record) } := by
  refine Registering.on_bind_ok (a := outcome stored record) ?_
  rw [Registering.register_on, check_agrees h]

theorem registerEach_cons_conflicts (h : ¬ Agrees stored record) (rest : List ClassRecord) :
    (Registering.registerEach (record :: rest)).on { r with records := stored } =
      (.error (.bodyConflict record.name), { r with records := stored }) := by
  refine Registering.on_bind_error ?_
  rw [Registering.register_on, check_conflicts h]

/-- Where the check of a batch stands after some of its records: what it has seen agrees with what
was known before, and both together are what registering one after the other has stored. -/
structure Met (records : Keyed ClassRecord) (all : List ClassRecord)
    (seen stored : Keyed ClassRecord) : Prop where
  ordered : stored.Ordered
  lookup : ∀ name, stored.get? name = (records.get? name).or (seen.get? name)
  origin : ∀ name earlier, seen.get? name = some earlier → earlier ∈ all ∧ earlier.name = name
  agrees : ∀ name earlier, seen.get? name = some earlier → Agrees records earlier

namespace Met

variable (h : Met records all seen stored)
include h

/-- A record agrees with what is stored so far if it agrees with what was known and seen. -/
theorem agrees_iff : Agrees stored record ↔ Agrees seen record ∧ Agrees records record := by
  unfold Agrees
  rw [h.lookup]
  cases hknown : records.get? record.name with
  | none => simp
  | some known =>
    rw [Option.some_or]
    constructor
    · intro hagrees
      have hdigest := hagrees known rfl
      refine ⟨?_, hagrees⟩
      intro earlier hearlier
      obtain ⟨_, hname⟩ := h.origin _ _ hearlier
      exact (h.agrees _ _ hearlier known (hname ▸ hknown)).symm.trans hdigest
    · exact fun hboth => hboth.2

variable (hdigests : DigestsSeparate records all) (hrecord : record ∈ all)
  (hseen : Agrees seen record) (hknown : Agrees records record)
include hdigests hrecord hseen

/-- What was seen under the name of an agreeing record is the record itself. -/
theorem seen_eq {earlier : ClassRecord} (hearlier : seen.get? record.name = some earlier) :
    earlier = record := by
  obtain ⟨hmem, hname⟩ := h.origin _ _ hearlier
  have hbytes := hdigests record hrecord earlier (.inr ⟨hmem, hname⟩) (hseen earlier hearlier)
  exact ClassRecord.eq_of_bytes hname hbytes

/-- The check inserts a record again that the batch repeats; it finds what is there already. -/
theorem store_outcome :
    store stored record (outcome records record) = store stored record (outcome stored record) := by
  cases hbefore : records.get? record.name with
  | some known =>
    have hstored : stored.get? record.name = some known := by
      rw [h.lookup, hbefore, Option.some_or]
    rw [outcome_some hbefore, outcome_some hstored]
  | none =>
    have hstored : stored.get? record.name = seen.get? record.name := by
      rw [h.lookup, hbefore, Option.none_or]
    cases hearlier : seen.get? record.name with
    | none => rw [outcome_none hbefore, outcome_none (hstored.trans hearlier)]
    | some earlier =>
      rw [outcome_none hbefore, outcome_some (hstored.trans hearlier)]
      refine (h.ordered.insert _ _).ext h.ordered fun name => ?_
      rw [Keyed.get?_insert]
      split
      · next heq =>
        rw [heq]
        change some record = stored.get? record.name
        rw [hstored, hearlier, h.seen_eq hdigests hrecord hseen hearlier]
      · rfl

include hknown

theorem next :
    Met records all (seen.insert record.name record)
      (store stored record (outcome stored record)) := by
  refine ⟨?_, ?_, ?_, ?_⟩
  · unfold store
    split
    · exact h.ordered.insert _ _
    · exact h.ordered
  · intro name
    rw [Keyed.get?_insert]
    cases hstored : stored.get? record.name with
    | none =>
      have hnew : records.get? record.name = none := by
        have hboth := h.lookup record.name
        rw [hstored] at hboth
        exact (Option.or_eq_none_iff.mp hboth.symm).1
      rw [outcome_none hstored]
      change (stored.insert record.name record).get? name = _
      rw [Keyed.get?_insert, h.lookup]
      split
      · next heq => rw [heq, hnew, Option.none_or]
      · rfl
    | some found =>
      rw [outcome_some hstored]
      change stored.get? name = _
      rw [h.lookup]
      split
      · next heq =>
        subst heq
        cases hbefore : records.get? record.name with
        | some known => rfl
        | none =>
          rw [h.lookup, hbefore, Option.none_or] at hstored
          rw [hstored, h.seen_eq hdigests hrecord hseen hstored]
      · rfl
  · intro name earlier hearlier
    rw [Keyed.get?_insert] at hearlier
    split at hearlier
    · next heq =>
      cases hearlier
      exact ⟨hrecord, heq.symm⟩
    · exact h.origin name earlier hearlier
  · intro name earlier hearlier
    rw [Keyed.get?_insert] at hearlier
    split at hearlier
    · cases hearlier
      exact hknown
    · exact h.agrees name earlier hearlier

end Met

theorem checkAll_cons_agrees (hseen : Agrees seen record) (hknown : Agrees records record)
    {rest : List ClassRecord} :
    checkAll records seen (record :: rest) =
      (checkAll records (seen.insert record.name record) rest).map
        (outcome records record :: ·) := by
  have hagrees : ((seen.get? record.name).all fun earlier => earlier.digest = record.digest) =
      true := by
    cases hearlier : seen.get? record.name with
    | none => rfl
    | some earlier => simpa using hseen earlier hearlier
  simp only [checkAll, hagrees, if_true, check_agrees hknown]
  cases checkAll records (seen.insert record.name record) rest <;> rfl

theorem checkAll_cons_conflicts (h : ¬ (Agrees seen record ∧ Agrees records record))
    {rest : List ClassRecord} :
    checkAll records seen (record :: rest) = .error (.bodyConflict record.name) := by
  unfold checkAll
  dsimp only
  split
  · next hagrees =>
    have hseen : Agrees seen record := by
      intro earlier hearlier
      rw [hearlier] at hagrees
      simpa using hagrees
    rw [check_conflicts fun hknown => h ⟨hseen, hknown⟩]
    rfl
  · rfl

/-- The check of a batch goes on as registering one after the other does, and so does what it stores
in the end. -/
theorem checkAll_cases (hmet : Met r.records all seen stored) (hbatch : ∀ x ∈ batch, x ∈ all)
    (hdigests : DigestsSeparate r.records all) :
    (∃ final, checkAll r.records seen batch = .ok (batch.map (outcome r.records)) ∧
      storeAll stored (batch.zip (batch.map (outcome r.records))) = final ∧
      (Registering.registerEach batch).on { r with records := stored } =
        (.ok (), { r with records := final })) ∨
    ∃ name, checkAll r.records seen batch = .error (.bodyConflict name) ∧
      ((Registering.registerEach batch).on { r with records := stored }).1 =
        .error (.bodyConflict name) := by
  induction batch generalizing seen stored with
  | nil => exact .inl ⟨stored, rfl, rfl, rfl⟩
  | cons record rest ih =>
    have hrecord : record ∈ all := hbatch record List.mem_cons_self
    by_cases hagrees : Agrees stored record
    · obtain ⟨hseen, hknown⟩ := hmet.agrees_iff.mp hagrees
      have hnext := hmet.next hdigests hrecord hseen hknown
      rw [checkAll_cons_agrees hseen hknown, registerEach_cons_agrees hagrees]
      rcases ih hnext fun x hx => hbatch x (List.mem_cons_of_mem record hx) with
        ⟨final, hcheck, hfold, heach⟩ | ⟨name, hcheck, heach⟩
      · refine .inl ⟨final, by rw [hcheck]; rfl, ?_, heach⟩
        rw [← hmet.store_outcome hdigests hrecord hseen] at hfold
        exact hfold
      · exact .inr ⟨name, by rw [hcheck]; rfl, heach⟩
    · have hconflict := fun hboth => hagrees (hmet.agrees_iff.mpr hboth)
      refine .inr ⟨record.name, checkAll_cons_conflicts hconflict, ?_⟩
      rw [registerEach_cons_conflicts hagrees rest]

/-- A batch is registered exactly if its records could be registered one after the other, with the
same registry in the end; else both fail at the same name, and the batch leaves the registry alone. -/
theorem registerAll_cases (hindexed : Indexed r.records)
    (hdigests : DigestsSeparate r.records batch) :
    (∃ r', (Registering.registerAll batch).on r = (.ok (batch.map (outcome r.records)), r') ∧
      (Registering.registerEach batch).on r = (.ok (), r')) ∨
    ∃ name, (Registering.registerAll batch).on r = (.error (.bodyConflict name), r) ∧
      ((Registering.registerEach batch).on r).1 = .error (.bodyConflict name) := by
  have hmet : Met r.records batch [] r.records :=
    ⟨hindexed.ordered, fun _ => (Option.or_none).symm, nofun, nofun⟩
  rcases checkAll_cases hmet (fun _ hx => hx) hdigests with
    ⟨final, hcheck, hfold, heach⟩ | ⟨name, hcheck, heach⟩
  · refine .inl ⟨{ r with records := final }, ?_, heach⟩
    rw [registerAll_passed hcheck, hfold]
  · exact .inr ⟨name, registerAll_refused hcheck, heach⟩

/-! Registered batches. -/

/-- A record of a batch stands under its name afterwards. -/
theorem registerAll_holds {outcomes : List Registration} (hindexed : Indexed r.records)
    (hdigests : DigestsSeparate r.records batch)
    (h : r.registerAll batch = .ok (outcomes, r')) (hrecord : record ∈ batch) :
    r'.records.get? record.name = some record := by
  obtain ⟨found, hfound, hbytes⟩ := registerAll_stores h hdigests hrecord
  have hname := (hindexed.registerAll h).named _ _ hfound
  rw [hfound, ClassRecord.eq_of_bytes hname hbytes]

private theorem checkAll_again (hholds : ∀ record ∈ batch, records.get? record.name = some record)
    (hseen : ∀ name earlier, seen.get? name = some earlier → records.get? name = some earlier) :
    checkAll records seen batch = .ok (batch.map fun _ => .unchanged) := by
  induction batch generalizing seen with
  | nil => rfl
  | cons record rest ih =>
    have hrecord := hholds record List.mem_cons_self
    have hknown : Agrees records record := by
      intro known hget
      cases hrecord.symm.trans hget
      rfl
    have hnext : ∀ name earlier, (seen.insert record.name record).get? name = some earlier →
        records.get? name = some earlier := by
      intro name earlier hget
      rw [Keyed.get?_insert] at hget
      split at hget
      · next heq =>
        cases hget
        exact heq ▸ hrecord
      · exact hseen name earlier hget
    rw [checkAll_cons_agrees (fun earlier hget => hknown earlier (hseen _ _ hget)) hknown,
      ih (fun x hx => hholds x (List.mem_cons_of_mem record hx)) hnext, outcome_some hrecord]
    rfl

/-- A batch that stands in the registry already may be registered again, which changes nothing. -/
theorem registerAll_again (hholds : ∀ record ∈ batch, r.records.get? record.name = some record) :
    (Registering.registerAll batch).on r = (.ok (batch.map fun _ => .unchanged), r) := by
  have hidle : ∀ (items : List ClassRecord) (records : Keyed ClassRecord),
      storeAll records (items.zip (items.map fun _ => .unchanged)) = records := by
    intro items records
    induction items with
    | nil => rfl
    | cons item rest ih => exact ih
  rw [registerAll_passed (checkAll_again hholds nofun), hidle]

end ClassRegistry

end EntityForge
