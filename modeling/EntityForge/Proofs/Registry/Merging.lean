import EntityForge.Proofs.Registry.Batches

/-!
Merging batches. Batches that hold no different bytes under one name do not get in each other's way:
whatever others were registered before it, a batch is registered or refused as it would be in the
registry from which they all started, and what is stored in the end depends on which batches were
registered, not on their order.
-/

namespace EntityForge.ClassRegistry

variable {r r' m m' : ClassRegistry} {records records' seen : Keyed ClassRecord}
  {record : ClassRecord} {batch other : List ClassRecord} {done done' : List (List ClassRecord)}

/-! The check of a batch, by what it knows of each record. -/

/-- A check either passes, if every record agrees with what is known, or it finds a conflict. -/
theorem checkAll_ok {outcomes : List Registration}
    (h : checkAll records seen batch = .ok outcomes) : outcomes = batch.map (outcome records) := by
  induction batch generalizing seen outcomes with
  | nil =>
    cases h
    rfl
  | cons record rest ih =>
    by_cases hagrees : Agrees seen record ∧ Agrees records record
    · rw [checkAll_cons_agrees hagrees.1 hagrees.2] at h
      obtain ⟨tail, htail, rfl⟩ := Checked.map_eq_ok.mp h
      rw [ih htail, List.map_cons]
    · rw [checkAll_cons_conflicts hagrees] at h
      cases h

/-- Two tables that agree with the same records pass and refuse the same batches. -/
theorem checkAll_congr (seen : Keyed ClassRecord)
    (h : ∀ record ∈ batch, Agrees records' record ↔ Agrees records record) :
    (∃ outcomes outcomes', checkAll records' seen batch = .ok outcomes' ∧
      checkAll records seen batch = .ok outcomes) ∨
    ∃ name, checkAll records' seen batch = .error (.bodyConflict name) ∧
      checkAll records seen batch = .error (.bodyConflict name) := by
  induction batch generalizing seen with
  | nil => exact .inl ⟨[], [], rfl, rfl⟩
  | cons record rest ih =>
    have hsame := h record List.mem_cons_self
    by_cases hagrees : Agrees seen record ∧ Agrees records record
    · rw [checkAll_cons_agrees hagrees.1 hagrees.2,
        checkAll_cons_agrees hagrees.1 (hsame.mpr hagrees.2)]
      rcases ih (seen.insert record.name record) fun x hx => h x (List.mem_cons_of_mem record hx)
        with ⟨outcomes, outcomes', hpass', hpass⟩ | ⟨name, hrefuse', hrefuse⟩
      · exact .inl ⟨_, _, by rw [hpass']; rfl, by rw [hpass]; rfl⟩
      · exact .inr ⟨name, by rw [hrefuse']; rfl, by rw [hrefuse]; rfl⟩
    · have hagrees' : ¬ (Agrees seen record ∧ Agrees records' record) :=
        fun hboth => hagrees ⟨hboth.1, hsame.mp hboth.2⟩
      exact .inr ⟨record.name, checkAll_cons_conflicts hagrees', checkAll_cons_conflicts hagrees⟩

/-- What is stored where more is known already: what is known, and else what is stored elsewhere. -/
theorem storeAll_known (hkeeps : Keeps records records') (stored stored' : Keyed ClassRecord)
    (hlookup : ∀ name, stored'.get? name = (records'.get? name).or (stored.get? name)) (name : String) :
    (storeAll stored' (batch.zip (batch.map (outcome records')))).get? name =
      (records'.get? name).or
        ((storeAll stored (batch.zip (batch.map (outcome records)))).get? name) := by
  induction batch generalizing stored stored' with
  | nil => exact hlookup name
  | cons record rest ih =>
    refine ih (store stored record (outcome records record))
      (store stored' record (outcome records' record)) fun name => ?_
    cases hknown : records.get? record.name with
    | some known =>
      rw [outcome_some hknown, outcome_some (hkeeps _ _ hknown)]
      exact hlookup name
    | none =>
      rw [outcome_none hknown]
      cases hknown' : records'.get? record.name with
      | none =>
        rw [outcome_none hknown']
        change (stored'.insert record.name record).get? name =
          (records'.get? name).or ((stored.insert record.name record).get? name)
        rw [Keyed.get?_insert, Keyed.get?_insert, hlookup]
        split
        · next heq => rw [heq, hknown', Option.none_or]
        · rfl
      | some known =>
        rw [outcome_some hknown']
        change stored'.get? name =
          (records'.get? name).or ((stored.insert record.name record).get? name)
        rw [Keyed.get?_insert, hlookup]
        split
        · next heq => rw [heq, hknown', Option.some_or, Option.some_or]
        · rfl

/-- A batch in two registries, of which one knows more, but nothing that contradicts the batch. -/
theorem registerAll_congr (hkeeps : Keeps r.records m.records)
    (hagrees : ∀ record ∈ batch, Agrees m.records record ↔ Agrees r.records record) :
    (∃ outcomes outcomes' r' m', (Registering.registerAll batch).on m = (.ok outcomes', m') ∧
      (Registering.registerAll batch).on r = (.ok outcomes, r') ∧
      ∀ name, m'.records.get? name = (m.records.get? name).or (r'.records.get? name)) ∨
    ∃ name, (Registering.registerAll batch).on m = (.error (.bodyConflict name), m) ∧
      (Registering.registerAll batch).on r = (.error (.bodyConflict name), r) := by
  rcases checkAll_congr [] hagrees with ⟨outcomes, outcomes', hpass', hpass⟩ | ⟨name, hrefuse', hrefuse⟩
  · refine .inl ⟨outcomes, outcomes', _, _, registerAll_passed hpass', registerAll_passed hpass, ?_⟩
    have hlookup : ∀ name, m.records.get? name =
        (m.records.get? name).or (r.records.get? name) := by
      intro name
      cases hknown : r.records.get? name with
      | none => rw [Option.or_none]
      | some known => rw [hkeeps name known hknown, Option.some_or]
    rw [checkAll_ok hpass, checkAll_ok hpass']
    exact storeAll_known hkeeps r.records m.records hlookup
  · exact .inr ⟨name, registerAll_refused hrefuse', registerAll_refused hrefuse⟩

/-! Batches that were registered in some order. -/

/-- Two batches that are the same, or that hold the same bytes under every name they share. -/
def Compatible (batch other : List ClassRecord) : Prop :=
  batch = other ∨ ∀ x ∈ batch, ∀ y ∈ other, x.name = y.name → x.bytes = y.bytes

theorem Compatible.symm (h : Compatible batch other) : Compatible other batch := by
  rcases h with rfl | h
  · exact .inl rfl
  · exact .inr fun x hx y hy hname => (h y hy x hx hname.symm).symm

/-- A batch adds a record to a registry in which the name is new. -/
def Adds (r : ClassRegistry) (batch : List ClassRecord) (name : String) (record : ClassRecord) :
    Prop :=
  r.records.get? name = none ∧ ∃ outcomes r', r.registerAll batch = .ok (outcomes, r') ∧
    r'.records.get? name = some record

theorem Adds.mem {name : String} (h : r.Adds batch name record) :
    record ∈ batch ∧ record.name = name := by
  obtain ⟨hnew, outcomes, r', hregister, hget⟩ := h
  refine (registerAll_origin hregister hget).resolve_left fun hknown => ?_
  cases hnew.symm.trans hknown

/-- What is added has the digest that every record of that name in the batch has. -/
theorem Adds.digest {added : ClassRecord} (h : r.Adds batch record.name added)
    (hrecord : record ∈ batch) : added.digest = record.digest := by
  obtain ⟨_, outcomes, r', hregister, hget⟩ := h
  obtain ⟨stored, hstored, hdigest⟩ := registerAll_digest hregister hrecord
  cases hget.symm.trans hstored
  exact hdigest

/-- Compatible batches add the same record under a name. -/
theorem Adds.unique {name : String} {x y : ClassRecord} (h : r.Adds batch name x)
    (h' : r.Adds other name y) (hcompatible : Compatible batch other) : x = y := by
  rcases hcompatible with rfl | hbytes
  · obtain ⟨_, outcomes, r', hregister, hget⟩ := h
    obtain ⟨_, outcomes', r'', hregister', hget'⟩ := h'
    cases hregister.symm.trans hregister'
    exact Option.some.inj (hget.symm.trans hget')
  · obtain ⟨hx, hxname⟩ := h.mem
    obtain ⟨hy, hyname⟩ := h'.mem
    have hname : x.name = y.name := hxname.trans hyname.symm
    exact ClassRecord.eq_of_bytes hname (hbytes x hx y hy hname)

/-- A registry after some batches: the records from the start, and those that the batches add. -/
structure Merged (r : ClassRegistry) (done : List (List ClassRecord)) (m : ClassRegistry) : Prop where
  indexed : Indexed m.records
  loaded : m.loaded = r.loaded
  annotations : m.annotations = r.annotations
  lookup : ∀ name record, m.records.get? name = some record ↔
    r.records.get? name = some record ∨ ∃ batch ∈ done, r.Adds batch name record

namespace Merged

theorem start (h : Indexed r.records) : Merged r [] r where
  indexed := h
  loaded := rfl
  annotations := rfl
  lookup _ _ := by simp

theorem congr (h : Merged r done m) (hdone : ∀ batch, batch ∈ done ↔ batch ∈ done') :
    Merged r done' m where
  indexed := h.indexed
  loaded := h.loaded
  annotations := h.annotations
  lookup name record := by
    simp only [h.lookup name record, hdone]

/-- The order of the batches does not matter. -/
theorem unique (h : Merged r done m) (h' : Merged r done' m')
    (hdone : ∀ batch, batch ∈ done ↔ batch ∈ done') : m = m' := by
  have hget : ∀ name, m.records.get? name = m'.records.get? name := by
    intro name
    refine Option.ext fun record => ?_
    rw [h'.lookup, (h.congr hdone).lookup]
  have hrecords : m.records = m'.records := h.indexed.ordered.ext h'.indexed.ordered hget
  obtain ⟨records, loaded, annotations⟩ := m
  obtain ⟨records', loaded', annotations'⟩ := m'
  cases hrecords
  cases h.loaded.trans h'.loaded.symm
  cases h.annotations.trans h'.annotations.symm
  rfl

theorem keeps (h : Merged r done m) : Keeps r.records m.records :=
  fun name record hknown => (h.lookup name record).mpr (.inl hknown)

/-- What one of the batches alone would have stored is there. -/
theorem holds (h : Merged r done m) (hbatch : batch ∈ done) {outcomes : List Registration}
    (hregister : r.registerAll batch = .ok (outcomes, r')) {name : String}
    (hget : r'.records.get? name = some record) : m.records.get? name = some record := by
  refine (h.lookup name record).mpr ?_
  cases hbefore : r.records.get? name with
  | none => exact .inr ⟨batch, hbatch, hbefore, outcomes, r', hregister, hget⟩
  | some known =>
    cases ((registerAll_keeps hregister).1 name known hbefore).symm.trans hget
    exact .inl rfl

/-- A batch that is compatible with the others agrees with the registry if it did from the start. -/
theorem agrees_iff (h : Merged r done m) (hcompatible : ∀ other ∈ done, Compatible batch other)
    (hrecord : record ∈ batch) : Agrees m.records record ↔ Agrees r.records record := by
  constructor
  · exact fun hagrees known hknown => hagrees known (h.keeps _ _ hknown)
  · intro hagrees known hknown
    rcases (h.lookup _ _).mp hknown with hbefore | ⟨other, hother, hadds⟩
    · exact hagrees known hbefore
    · rcases hcompatible other hother with rfl | hbytes
      · exact hadds.digest hrecord
      · obtain ⟨hmem, hname⟩ := hadds.mem
        rw [known.digest_eq, record.digest_eq, hbytes record hrecord known hmem hname.symm]

/-- A further batch is registered or refused as it would have been at the start. -/
theorem registerAll (h : Merged r done m) (hcompatible : ∀ other ∈ done, Compatible batch other) :
    (∃ outcomes outcomes' r' m', (Registering.registerAll batch).on m = (.ok outcomes', m') ∧
      (Registering.registerAll batch).on r = (.ok outcomes, r') ∧ Merged r (done ++ [batch]) m') ∨
    ∃ name, (Registering.registerAll batch).on m = (.error (.bodyConflict name), m) ∧
      (Registering.registerAll batch).on r = (.error (.bodyConflict name), r) := by
  rcases registerAll_congr h.keeps fun record => h.agrees_iff hcompatible with
    ⟨outcomes, outcomes', r', m', hon', hon, hlookup⟩ | hrefuse
  · refine .inl ⟨outcomes, outcomes', r', m', hon', hon, ?_⟩
    have hregister : r.registerAll batch = _ := Registering.accepted_eq_ok.mpr hon
    have hregister' : m.registerAll batch = _ := Registering.accepted_eq_ok.mpr hon'
    obtain ⟨_, hloaded, hannotations⟩ := registerAll_keeps hregister'
    refine ⟨h.indexed.registerAll hregister', hloaded.trans h.loaded,
      hannotations.trans h.annotations, ?_⟩
    intro name record
    rw [hlookup, Option.or_eq_some_iff]
    constructor
    · rintro (hknown | ⟨hnone, hget⟩)
      · refine ((h.lookup _ _).mp hknown).imp_right ?_
        rintro ⟨other, hother, hadds⟩
        exact ⟨other, List.mem_append_left _ hother, hadds⟩
      · have hnew : r.records.get? name = none := by
          cases hbefore : r.records.get? name with
          | none => rfl
          | some known => cases hnone.symm.trans (h.keeps _ _ hbefore)
        exact .inr ⟨batch, List.mem_append_right _ (List.mem_singleton_self _), hnew, outcomes, r',
          hregister, hget⟩
    · rintro (hbefore | ⟨other, hother, hadds⟩)
      · exact .inl (h.keeps _ _ hbefore)
      · rcases List.mem_append.mp hother with hdone | hlast
        · exact .inl ((h.lookup _ _).mpr (.inr ⟨other, hdone, hadds⟩))
        · obtain rfl := List.mem_singleton.mp hlast
          -- Where another batch has added a record already, it is the one that this batch adds.
          cases hknown : m.records.get? name with
          | none =>
            obtain ⟨_, _, r'', hregister'', hget⟩ := hadds
            cases hregister.symm.trans hregister''
            exact .inr ⟨rfl, hget⟩
          | some known =>
            rcases (h.lookup _ _).mp hknown with hbefore | ⟨earlier, hearlier, hadded⟩
            · cases hadds.1.symm.trans hbefore
            · rw [hadds.unique hadded (hcompatible earlier hearlier)]
              exact .inl rfl
  · exact .inr hrefuse

end Merged

end EntityForge.ClassRegistry
