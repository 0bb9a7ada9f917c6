import EntityForge.Text.Keyed

/-!
Tables in order. Binding a key keeps a table in order, and an ordered table is determined by what
its keys find.
-/

namespace EntityForge.Keyed

variable {α : Type} {table table' : Keyed α} {key : String} {value : α}

theorem get?_cons_self (key : String) (value : α) (rest : Keyed α) :
    get? ((key, value) :: rest) key = some value := by
  simp [get?]

theorem get?_cons_of_ne {other : String} (h : other ≠ key) (value : α) (rest : Keyed α) :
    get? ((key, value) :: rest) other = rest.get? other := by
  have hne : (other == key) = false := by simpa using h
  simp [get?, List.lookup_cons, hne]

theorem mem_keys_iff {key : String} : key ∈ table.keys ↔ table.contains key = true := by
  induction table with
  | nil => simp [keys, contains]
  | cons first rest ih =>
    unfold contains at ih ⊢
    rw [keys, List.map_cons, List.mem_cons]
    by_cases heq : key = first.1
    · rw [heq, get?_cons_self]
      simp
    · rw [get?_cons_of_ne heq, ← ih, keys]
      simp [heq]

theorem get?_insert (key other : String) (value : α) (table : Keyed α) :
    (table.insert key value).get? other =
      if other = key then some value else table.get? other := by
  split
  · next heq => rw [heq, get?_insert_self]
  · next hne => exact get?_insert_of_ne hne value table

theorem get?_map {β : Type} (f : α → β) (table : Keyed α) (key : String) :
    Keyed.get? (table.map fun (k, v) => (k, f v)) key = (table.get? key).map f := by
  induction table with
  | nil => rfl
  | cons first rest ih =>
    by_cases heq : key = first.1
    · subst heq
      rw [List.map_cons, get?_cons_self, get?_cons_self, Option.map_some]
    · rw [List.map_cons, get?_cons_of_ne heq, get?_cons_of_ne heq, ih]

theorem map_insert {β : Type} (f : α → β) (key : String) (value : α) (table : Keyed α) :
    ((table.insert key value).map fun (k, v) => (k, f v)) =
      Keyed.insert key (f value) (table.map fun (k, v) => (k, f v)) := by
  induction table with
  | nil => rfl
  | cons first rest ih =>
    rw [List.map_cons]
    unfold insert
    split
    · rfl
    · split
      · rfl
      · rw [List.map_cons, ih]

theorem mem_insert {entry : String × α} (h : entry ∈ table.insert key value) :
    entry = (key, value) ∨ entry ∈ table := by
  induction table with
  | nil => exact .inl (List.mem_singleton.mp h)
  | cons first rest ih =>
    unfold insert at h
    split at h
    · exact List.mem_cons.mp h
    · split at h
      · exact (List.mem_cons.mp h).imp_right (List.mem_cons_of_mem first)
      · rcases List.mem_cons.mp h with rfl | hrest
        · exact .inr List.mem_cons_self
        · exact (ih hrest).imp_right (List.mem_cons_of_mem first)

theorem Ordered.keys_nodup (h : table.Ordered) : table.keys.Nodup := by
  apply List.pairwise_map.mpr
  exact h.imp fun hlt => String.ne_of_lt hlt

theorem Ordered.insert (h : table.Ordered) (key : String) (value : α) :
    (table.insert key value).Ordered := by
  induction table with
  | nil => exact List.pairwise_singleton _ _
  | cons first rest ih =>
    obtain ⟨hfirst, hrest⟩ := List.pairwise_cons.mp h
    unfold Keyed.insert
    split
    · next hlt =>
      refine List.pairwise_cons.mpr ⟨?_, h⟩
      intro entry hentry
      rcases List.mem_cons.mp hentry with rfl | hentry
      · exact hlt
      · exact String.lt_trans hlt (hfirst entry hentry)
    · next hge =>
      split
      · next heq => exact List.pairwise_cons.mpr ⟨heq ▸ hfirst, hrest⟩
      · next hne =>
        have hgt : first.1 < key := by grind
        refine List.pairwise_cons.mpr ⟨?_, ih hrest⟩
        intro entry hentry
        rcases mem_insert hentry with rfl | hentry
        · exact hgt
        · exact hfirst entry hentry

/-- Whether a table is in order depends on its keys only. -/
theorem Ordered.of_keys {β : Type} {other : Keyed β} (h : table.Ordered)
    (hkeys : other.keys = table.keys) : other.Ordered := by
  rw [Ordered, ← List.pairwise_map] at h ⊢
  unfold keys at hkeys
  rwa [hkeys]

/-- A key behind all others is bound at the end. -/
theorem insert_last (h : ∀ entry ∈ table, entry.1 < key) (value : α) :
    table.insert key value = table ++ [(key, value)] := by
  induction table with
  | nil => rfl
  | cons first rest ih =>
    obtain ⟨hfirst, hrest⟩ := List.forall_mem_cons.mp h
    unfold insert
    rw [if_neg (String.lt_asymm hfirst), if_neg (String.ne_of_lt hfirst).symm, ih hrest,
      List.cons_append]

theorem mem_of_get? (h : table.get? key = some value) : (key, value) ∈ table := by
  induction table with
  | nil => cases h
  | cons first rest ih =>
    by_cases heq : key = first.1
    · subst heq
      rw [get?_cons_self] at h
      cases h
      exact List.mem_cons_self
    · rw [get?_cons_of_ne heq] at h
      exact List.mem_cons_of_mem first (ih h)

theorem Ordered.get?_tail {first : String × α} (h : Ordered (first :: table)) :
    table.get? first.1 = none := by
  obtain ⟨hfirst, _⟩ := List.pairwise_cons.mp h
  cases hget : table.get? first.1 with
  | none => rfl
  | some value => exact absurd (hfirst _ (mem_of_get? hget)) (String.lt_irrefl _)

theorem Ordered.get?_of_mem (h : table.Ordered) (hmem : (key, value) ∈ table) :
    table.get? key = some value := by
  induction table with
  | nil => cases hmem
  | cons first rest ih =>
    obtain ⟨hfirst, hrest⟩ := List.pairwise_cons.mp h
    rcases List.mem_cons.mp hmem with rfl | hmem
    · exact get?_cons_self key value rest
    · have hlt := hfirst _ hmem
      rw [get?_cons_of_ne (String.ne_of_lt hlt).symm]
      exact ih hrest hmem

/-- Ordered tables in which every key finds the same are the same. -/
theorem Ordered.ext (h : table.Ordered) (h' : table'.Ordered)
    (hget : ∀ key, table.get? key = table'.get? key) : table = table' := by
  induction table generalizing table' with
  | nil =>
    cases table' with
    | nil => rfl
    | cons first rest =>
      have hnone := hget first.1
      rw [get?_cons_self] at hnone
      cases hnone
  | cons first rest ih =>
    cases table' with
    | nil =>
      have hnone := hget first.1
      rw [get?_cons_self] at hnone
      cases hnone
    | cons first' rest' =>
      obtain ⟨hfirst, hrest⟩ := List.pairwise_cons.mp h
      obtain ⟨hfirst', hrest'⟩ := List.pairwise_cons.mp h'
      -- Each table has the first entry of the other one, so neither comes before the other.
      have hmem : first ∈ first' :: rest' :=
        mem_of_get? ((hget first.1).symm.trans (get?_cons_self _ _ _))
      have hmem' : first' ∈ first :: rest :=
        mem_of_get? ((hget first'.1).trans (get?_cons_self _ _ _))
      have hsame : first = first' := by
        rcases List.mem_cons.mp hmem with heq | hin
        · exact heq
        · rcases List.mem_cons.mp hmem' with heq | hin'
          · exact heq.symm
          · exact absurd (hfirst' first hin) (String.lt_asymm (hfirst first' hin'))
      subst hsame
      have htail : ∀ key, get? rest key = get? rest' key := by
        intro key
        by_cases heq : key = first.1
        · rw [heq, h.get?_tail, h'.get?_tail]
        · have hboth := hget key
          rwa [get?_cons_of_ne heq, get?_cons_of_ne heq] at hboth
      rw [ih hrest hrest' htail]

end EntityForge.Keyed
