import EntityForge.Proofs.Checked
import EntityForge.Proofs.Registry.Loading
import Mathlib.Data.List.Nodup

/-!
What registering keeps. A name keeps its record for good, and after several records are registered
together each of their names holds a record with the digest that was asked for. So a loaded class
always is what its record defines, whatever was registered after it was loaded.
-/

namespace EntityForge

/-- A table after records were stored, each as its outcome says. -/
def ClassRegistry.storeAll (records : Keyed ClassRecord)
    (entries : List (ClassRecord × Registration)) : Keyed ClassRecord :=
  entries.foldl (fun stored (record, outcome) => store stored record outcome) records

/-! What registrations do to the registry. -/

namespace Registering

variable {ε α β : Type} {r r' : ClassRegistry} {record : ClassRecord}

theorem on_bind_ok {x : Registering ε α} {f : α → Registering ε β} {a : α}
    (h : x.on r = (.ok a, r')) : (x >>= f).on r = (f a).on r' := Checked.run_bind_ok h

theorem on_bind_error {x : Registering ε α} {f : α → Registering ε β} {e : ε}
    (h : x.on r = (.error e, r')) : (x >>= f).on r = (.error e, r') := Checked.run_bind_error h

/-- Computations that do the same to a registry do so whatever follows them. -/
theorem on_bind_congr {x y : Registering ε α} (h : x.on r = y.on r) (f : α → Registering ε β) :
    (x >>= f).on r = (y >>= f).on r := by
  cases hy : y.on r with
  | mk result r' =>
    rw [hy] at h
    cases result with
    | ok a => rw [on_bind_ok h, on_bind_ok hy]
    | error e => rw [on_bind_error h, on_bind_error hy]

theorem on_adapt {ε' : Type} (f : ε → ε') (x : Registering ε α) (r : ClassRegistry) :
    on (ExceptT.adapt f x) r = ((x.on r).1.mapError f, (x.on r).2) := rfl

theorem accepted_eq_ok {x : Registering ε α} {a : α} :
    x.accepted r = .ok (a, r') ↔ x.on r = (.ok a, r') := by
  unfold accepted
  cases x.on r with
  | mk result after => cases result <;> simp [Except.map]

theorem register_on (record : ClassRecord) (r : ClassRegistry) :
    (register record).on r =
      match ClassRegistry.check r.records record with
      | .ok outcome =>
        (.ok outcome, { r with records := ClassRegistry.store r.records record outcome })
      | .error e => (.error e, r) := by
  change on (liftM (ClassRegistry.check r.records record) >>= _) r = _
  cases ClassRegistry.check r.records record <;> rfl

theorem registerBody_on (b : ClassBody) (r : ClassRegistry) :
    (registerBody b).on r =
      match (ClassRecord.ofBody b).mapError Failure.malformedBody with
      | .ok record => (register record).on r
      | .error e => (.error e, r) := by
  unfold registerBody
  cases (ClassRecord.ofBody b).mapError Failure.malformedBody <;> rfl

/-- What comes after storing several records goes on from the registry that holds them. -/
theorem on_stores_bind (entries : List (ClassRecord × Registration)) (next : Registering ε α)
    (r : ClassRegistry) :
    on (entries.forM (fun (record, outcome) => store record outcome) >>= fun _ => next) r =
      next.on { r with records := ClassRegistry.storeAll r.records entries } := by
  induction entries generalizing r with
  | nil => rfl
  | cons entry rest ih => exact ih _

/-- A batch is checked on the registry as it is, and stored only if all of it passes. -/
theorem registerAll_on (batch : List ClassRecord) (r : ClassRegistry) :
    (registerAll batch).on r =
      match ClassRegistry.checkAll r.records [] batch with
      | .ok outcomes =>
        (.ok outcomes,
          { r with records := ClassRegistry.storeAll r.records (batch.zip outcomes) })
      | .error e => (.error e, r) := by
  change on (liftM (ClassRegistry.checkAll r.records [] batch) >>= _) r = _
  cases ClassRegistry.checkAll r.records [] batch with
  | error e => rfl
  | ok outcomes =>
    exact on_stores_bind (batch.zip outcomes) (pure outcomes) r

theorem register_error {e : Failure} (h : (register record).on r = (.error e, r')) : r' = r := by
  rw [register_on] at h
  split at h
  · cases h
  · cases h
    rfl

/-- A batch that is refused leaves the registry as it was. -/
theorem registerAll_error {batch : List ClassRecord} {e : Failure}
    (h : (registerAll batch).on r = (.error e, r')) : r' = r := by
  rw [registerAll_on] at h
  split at h
  · cases h
  · cases h
    rfl

end Registering

namespace ClassRegistry

theorem register_eq_ok {r r' : ClassRegistry} {record : ClassRecord} {outcome : Registration} :
    r.register record = .ok (outcome, r') ↔
      check r.records record = .ok outcome ∧
        { r with records := store r.records record outcome } = r' := by
  unfold register
  rw [Registering.accepted_eq_ok, Registering.register_on]
  cases check r.records record with
  | error e => simp
  | ok found =>
    simp only [Prod.mk.injEq, Except.ok.injEq]
    exact and_congr_right fun heq => by rw [heq]

theorem registerAll_eq_ok {r r' : ClassRegistry} {batch : List ClassRecord}
    {outcomes : List Registration} :
    r.registerAll batch = .ok (outcomes, r') ↔
      checkAll r.records [] batch = .ok outcomes ∧
        { r with records := storeAll r.records (batch.zip outcomes) } = r' := by
  unfold registerAll
  rw [Registering.accepted_eq_ok, Registering.registerAll_on]
  cases checkAll r.records [] batch with
  | error e => simp
  | ok found =>
    simp only [Prod.mk.injEq, Except.ok.injEq]
    exact and_congr_right fun heq => by rw [heq]

/-- The registries that come about from a new one by registering and loading. -/
inductive Reachable : ClassRegistry → Prop where
  | new (annotations : AnnotationRegistry) : Reachable { annotations }
  | register {r r' : ClassRegistry} {record : ClassRecord} {outcome : Registration}
      (h : Reachable r) (hstored : r.register record = .ok (outcome, r')) : Reachable r'
  | registerAll {r r' : ClassRegistry} {batch : List ClassRecord} {outcomes : List Registration}
      (h : Reachable r) (hstored : r.registerAll batch = .ok (outcomes, r')) : Reachable r'
  | load {r : ClassRegistry} (h : Reachable r) (name : String) : Reachable (r.load name).2

/-! Names keep their records. -/

/-- Every record is still there. -/
def Keeps (records records' : Keyed ClassRecord) : Prop :=
  ∀ name record, records.get? name = some record → records'.get? name = some record

theorem check_cases {records : Keyed ClassRecord} {record : ClassRecord} {outcome : Registration}
    (h : check records record = .ok outcome) :
    (records.get? record.name = none ∧ outcome = .inserted) ∨
    (∃ known, records.get? record.name = some known ∧ known.digest = record.digest ∧
      outcome = .unchanged) := by
  unfold check at h
  cases hknown : records.get? record.name with
  | none =>
    rw [hknown] at h
    cases h
    exact .inl ⟨rfl, rfl⟩
  | some known =>
    simp only [hknown] at h
    split at h
    · next hdigest =>
      cases h
      exact .inr ⟨known, rfl, hdigest, rfl⟩
    · cases h

theorem register_keeps {r r' : ClassRegistry} {record : ClassRecord} {outcome : Registration}
    (h : r.register record = .ok (outcome, r')) :
    Keeps r.records r'.records ∧ r'.loaded = r.loaded ∧ r'.annotations = r.annotations := by
  obtain ⟨hcheck, rfl⟩ := register_eq_ok.mp h
  refine ⟨?_, rfl, rfl⟩
  intro name known hknown
  obtain ⟨hnew, rfl⟩ | ⟨_, _, _, rfl⟩ := check_cases hcheck
  · have hne : name ≠ record.name := by
      rintro rfl
      cases hnew.symm.trans hknown
    exact (Keyed.get?_insert_of_ne hne record r.records).trans hknown
  · exact hknown

/-- A record of a batch is stored in front of the earlier ones of the batch, unless its name was
stored before the batch. -/
private theorem store_get? {records stored seen : Keyed ClassRecord} {record : ClassRecord}
    {outcome : Registration} (hcheck : check records record = .ok outcome)
    (hstored : ∀ name, stored.get? name = (records.get? name).or (seen.get? name))
    (name : String) :
    (store stored record outcome).get? name =
      (records.get? name).or ((seen.insert record.name record).get? name) := by
  obtain ⟨hnew, rfl⟩ | ⟨known, hknown, _, rfl⟩ := check_cases hcheck
  · by_cases heq : name = record.name
    · subst heq
      simp [store, Keyed.get?_insert_self, hnew]
    · simp [store, Keyed.get?_insert_of_ne heq, hstored]
  · by_cases heq : name = record.name
    · subst heq
      simp [store, hstored, hknown]
    · simp [store, Keyed.get?_insert_of_ne heq, hstored]

/-- The records after a batch: those before it, and else the last of the batch. -/
private theorem storeAll_get? {records : Keyed ClassRecord} (batch : List ClassRecord)
    (stored : Keyed ClassRecord) {seen : Keyed ClassRecord} {outcomes : List Registration}
    (h : checkAll records seen batch = .ok outcomes)
    (hstored : ∀ name, stored.get? name = (records.get? name).or (seen.get? name)) :
    ∃ last : Keyed ClassRecord,
      (∀ name, (storeAll stored (batch.zip outcomes)).get? name =
        (records.get? name).or (last.get? name)) ∧
      (∀ name earlier, seen.get? name = some earlier →
        ∃ record, last.get? name = some record ∧ record.digest = earlier.digest) ∧
      (∀ name record, last.get? name = some record →
        seen.get? name = some record ∨ record ∈ batch ∧ record.name = name) ∧
      ∀ record ∈ batch,
        (∀ known, records.get? record.name = some known → known.digest = record.digest) ∧
          ∃ record', last.get? record.name = some record' ∧ record'.digest = record.digest := by
  induction batch generalizing seen stored outcomes with
  | nil =>
    exact ⟨seen, hstored, fun _ earlier hget => ⟨earlier, hget, rfl⟩, fun _ _ hget => .inl hget,
      by simp⟩
  | cons record rest ih =>
    unfold checkAll at h
    dsimp only at h
    split at h
    · next hagrees =>
      obtain ⟨outcome, hcheck, h⟩ := Checked.bind_eq_ok.mp h
      obtain ⟨outcomes, hrest, heq⟩ := Checked.bind_eq_ok.mp h
      cases heq
      obtain ⟨last, hlast, hseen, horigin, hbatch⟩ := ih _ hrest (store_get? hcheck hstored)
      have hself := hseen record.name record (Keyed.get?_insert_self _ _ _)
      refine ⟨last, hlast, ?_, ?_, ?_⟩
      · intro name earlier hget
        by_cases heq : name = record.name
        · subst heq
          obtain ⟨found, hfound, hdigest⟩ := hself
          rw [hget] at hagrees
          have hsame : earlier.digest = record.digest := by simpa using hagrees
          exact ⟨found, hfound, hdigest.trans hsame.symm⟩
        · exact hseen name earlier (by rwa [Keyed.get?_insert_of_ne heq])
      · intro name found hfound
        rcases horigin name found hfound with hbefore | ⟨hin, hname⟩
        · by_cases heq : name = record.name
          · subst heq
            rw [Keyed.get?_insert_self] at hbefore
            cases hbefore
            exact .inr ⟨by simp, rfl⟩
          · exact .inl (by rwa [Keyed.get?_insert_of_ne heq] at hbefore)
        · exact .inr ⟨by simp [hin], hname⟩
      · intro other hother
        rcases List.mem_cons.mp hother with rfl | hin
        · refine ⟨?_, hself⟩
          intro known hknown
          obtain ⟨hnew, _⟩ | ⟨_, hfound, hdigest, _⟩ := check_cases hcheck
          · cases hnew.symm.trans hknown
          · cases hfound.symm.trans hknown
            exact hdigest
        · exact hbatch other hin
    · cases h

theorem registerAll_keeps {r r' : ClassRegistry} {batch : List ClassRecord}
    {outcomes : List Registration} (h : r.registerAll batch = .ok (outcomes, r')) :
    Keeps r.records r'.records ∧ r'.loaded = r.loaded ∧ r'.annotations = r.annotations := by
  obtain ⟨hcheck, rfl⟩ := registerAll_eq_ok.mp h
  obtain ⟨last, hget, _⟩ := storeAll_get? batch r.records hcheck (by simp)
  refine ⟨?_, rfl, rfl⟩
  intro name known hknown
  rw [hget, hknown, Option.some_or]

/-- Registering keeps the records whether it succeeds or not. -/
theorem register_on_keeps (r : ClassRegistry) (record : ClassRecord) :
    Keeps r.records ((Registering.register record).on r).2.records := by
  cases hon : (Registering.register record).on r with
  | mk result r' =>
    cases result with
    | ok outcome => exact (register_keeps (Registering.accepted_eq_ok.mpr hon)).1
    | error e =>
      obtain rfl := Registering.register_error hon
      exact fun _ _ h => h

theorem registerAll_on_keeps (r : ClassRegistry) (batch : List ClassRecord) :
    Keeps r.records ((Registering.registerAll batch).on r).2.records := by
  cases hon : (Registering.registerAll batch).on r with
  | mk result r' =>
    cases result with
    | ok outcomes => exact (registerAll_keeps (Registering.accepted_eq_ok.mpr hon)).1
    | error e =>
      obtain rfl := Registering.registerAll_error hon
      exact fun _ _ h => h

/-- Every record after a batch was registered was there before or comes from the batch. -/
theorem registerAll_origin {r r' : ClassRegistry} {batch : List ClassRecord}
    {outcomes : List Registration} (h : r.registerAll batch = .ok (outcomes, r')) {name : String}
    {record : ClassRecord} (hrecord : r'.records.get? name = some record) :
    r.records.get? name = some record ∨ record ∈ batch ∧ record.name = name := by
  obtain ⟨hcheck, rfl⟩ := registerAll_eq_ok.mp h
  obtain ⟨last, hget, _, horigin, _⟩ := storeAll_get? batch r.records hcheck (by simp)
  rw [hget] at hrecord
  cases hbefore : r.records.get? name with
  | none =>
    rw [hbefore, Option.none_or] at hrecord
    exact .inr ((horigin name record hrecord).resolve_left nofun)
  | some known =>
    rw [hbefore, Option.some_or] at hrecord
    exact .inl hrecord

/-- Digests tell apart the bytes that a batch and the records before it hold under one name. -/
def DigestsSeparate (records : Keyed ClassRecord) (batch : List ClassRecord) : Prop :=
  ∀ record ∈ batch, ∀ other,
    records.get? record.name = some other ∨ other ∈ batch ∧ other.name = record.name →
      other.digest = record.digest → other.bytes = record.bytes

/-- After a batch was registered, each of its names holds the bytes that were asked for. -/
theorem registerAll_stores {r r' : ClassRegistry} {batch : List ClassRecord}
    {outcomes : List Registration} (h : r.registerAll batch = .ok (outcomes, r'))
    (hdigests : DigestsSeparate r.records batch) {record : ClassRecord} (hrecord : record ∈ batch) :
    ∃ stored, r'.records.get? record.name = some stored ∧ stored.bytes = record.bytes := by
  obtain ⟨hcheck, rfl⟩ := registerAll_eq_ok.mp h
  obtain ⟨last, hget, _, horigin, hbatch⟩ := storeAll_get? batch r.records hcheck (by simp)
  obtain ⟨hknown, found, hfound, hdigest⟩ := hbatch record hrecord
  rw [hget]
  cases hbefore : r.records.get? record.name with
  | none =>
    refine ⟨found, by simpa using hfound, ?_⟩
    rcases horigin _ _ hfound with hseen | hin
    · cases hseen
    · exact hdigests record hrecord found (.inr hin) hdigest
  | some known =>
    refine ⟨known, by simp, ?_⟩
    exact hdigests record hrecord known (.inl hbefore) (hknown known hbefore)

/-- After a batch was registered, each of its names holds a record of the digest that was asked
for. -/
theorem registerAll_digest {r r' : ClassRegistry} {batch : List ClassRecord}
    {outcomes : List Registration} (h : r.registerAll batch = .ok (outcomes, r'))
    {record : ClassRecord} (hrecord : record ∈ batch) :
    ∃ stored, r'.records.get? record.name = some stored ∧ stored.digest = record.digest := by
  obtain ⟨hcheck, rfl⟩ := registerAll_eq_ok.mp h
  obtain ⟨last, hget, _, _, hbatch⟩ := storeAll_get? batch r.records hcheck (by simp)
  obtain ⟨hknown, found, hfound, hdigest⟩ := hbatch record hrecord
  rw [hget]
  cases hbefore : r.records.get? record.name with
  | none => exact ⟨found, by simpa using hfound, hdigest⟩
  | some known => exact ⟨known, by simp, hknown known hbefore⟩

/-! Names that are new. -/

private theorem checkAll_new {records : Keyed ClassRecord} {batch : List ClassRecord}
    (seen : Keyed ClassRecord) (hnames : (batch.map (·.name)).Nodup)
    (hnew : ∀ record ∈ batch, records.get? record.name = none ∧ seen.get? record.name = none) :
    ∃ outcomes, checkAll records seen batch = .ok outcomes := by
  induction batch generalizing seen with
  | nil => exact ⟨[], rfl⟩
  | cons record rest ih =>
    rw [List.map_cons, List.nodup_cons] at hnames
    obtain ⟨hrecord, hseen⟩ := hnew record (by simp)
    have hrest : ∀ other ∈ rest, records.get? other.name = none ∧
        (seen.insert record.name record).get? other.name = none := by
      intro other hother
      obtain ⟨hunknown, hunseen⟩ := hnew other (by simp [hother])
      have hne : other.name ≠ record.name := fun heq =>
        hnames.1 (heq ▸ List.mem_map_of_mem hother)
      exact ⟨hunknown, (Keyed.get?_insert_of_ne hne record seen).trans hunseen⟩
    obtain ⟨outcomes, houtcomes⟩ := ih _ hnames.2 hrest
    refine ⟨.inserted :: outcomes, ?_⟩
    unfold checkAll check
    simp only [hseen, hrecord, houtcomes, Option.all_none, if_true]
    rfl

/-- Records of different new names are registered. -/
theorem registerAll_new {r : ClassRegistry} {batch : List ClassRecord}
    (hnames : (batch.map (·.name)).Nodup)
    (hnew : ∀ record ∈ batch, r.records.get? record.name = none) :
    ∃ outcomes r', r.registerAll batch = .ok (outcomes, r') := by
  obtain ⟨outcomes, houtcomes⟩ := checkAll_new [] hnames fun record hrecord =>
    ⟨hnew record hrecord, rfl⟩
  exact ⟨outcomes, _, registerAll_eq_ok.mpr ⟨houtcomes, rfl⟩⟩

/-- Where names are new and differ, no bytes compete, whatever their digests. -/
theorem digestsSeparate_new {records : Keyed ClassRecord} {batch : List ClassRecord}
    (hnames : (batch.map (·.name)).Nodup)
    (hnew : ∀ record ∈ batch, records.get? record.name = none) :
    DigestsSeparate records batch := by
  intro record hrecord other hother _
  rcases hother with hknown | ⟨hmem, hname⟩
  · cases (hnew record hrecord).symm.trans hknown
  · rw [List.inj_on_of_nodup_map hnames hmem hrecord hname]

/-! Loaded classes are what their records define. -/

def ownSlots (b : ClassBody) : Except Failure (List FieldSlot) :=
  (LoadedClass.instanceFields b).mapM (LoadedClass.slotOf b.name)

/-- A class is what the record of a name defines: it has that body, and behind the slots that it
inherits the slots of the fields in that body. -/
def Defines (records : Keyed ClassRecord) (name : String) (c : LoadedClass) : Prop :=
  definition records name = .ok c.body ∧
    ∃ inherited own, ownSlots c.body = .ok own ∧ c.slots = inherited ++ own

theorem definition_keeps {records records' : Keyed ClassRecord} (hkeeps : Keeps records records')
    {name : String} {b : ClassBody} (h : definition records name = .ok b) :
    definition records' name = .ok b := by
  have hcontains := contains_of_definition h
  cases hrecord : records.get? name with
  | none => simp [Keyed.contains, hrecord] at hcontains
  | some record =>
    have hsame : definition records' name = definition records name := by
      unfold definition body
      rw [hkeeps name record hrecord, hrecord]
    rw [hsame, h]

theorem Defines.keep {records records' : Keyed ClassRecord} (hkeeps : Keeps records records')
    {name : String} {c : LoadedClass} (h : Defines records name c) : Defines records' name c :=
  ⟨definition_keeps hkeeps h.1, h.2⟩

theorem defines_of_link {records : Keyed ClassRecord} {name : String} {b : ClassBody}
    {parent : Option LoadedClass} {c : LoadedClass} (hbody : definition records name = .ok b)
    (hlink : LoadedClass.link b parent = .ok c) : Defines records name c := by
  obtain ⟨own, hown, heq⟩ := Checked.bind_eq_ok.mp hlink
  cases heq
  exact ⟨hbody, _, own, hown, rfl⟩

/-- A registry whose loaded classes are what their records define. -/
def Sound (r : ClassRegistry) : Prop :=
  ∀ name c, r.loaded.get? name = some c → Defines r.records name c

theorem Links.defines {r : ClassRegistry} (hsound : r.Sound) {name : String} {c : LoadedClass}
    (h : r.Links name c) : Defines r.records name c := by
  obtain ⟨height, hderives⟩ := h
  cases hderives with
  | cached hcached => exact hsound _ _ hcached
  | root _ hbody _ hlink => exact defines_of_link hbody hlink
  | child _ hbody _ _ hlink => exact defines_of_link hbody hlink

theorem Later.sound {r r' : ClassRegistry} (h : r.Later r') (hsound : r.Sound) : r'.Sound := by
  intro name c hget
  rw [h.records]
  exact Links.defines hsound (h.loaded.linked name c hget)

/-- Every registry that comes about is sound. -/
theorem Reachable.sound {r : ClassRegistry} (h : r.Reachable) : r.Sound := by
  induction h with
  | new annotations => exact nofun
  | register _ hstored ih =>
    obtain ⟨hkeeps, hloaded, _⟩ := register_keeps hstored
    intro name c hget
    rw [hloaded] at hget
    exact (ih name c hget).keep hkeeps
  | registerAll _ hstored ih =>
    obtain ⟨hkeeps, hloaded, _⟩ := registerAll_keeps hstored
    intro name c hget
    rw [hloaded] at hget
    exact (ih name c hget).keep hkeeps
  | @load r _ name ih => exact (load_later r name).sound ih

end ClassRegistry

end EntityForge
