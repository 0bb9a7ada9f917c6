import EntityForge.Class.Decode
import EntityForge.Proofs.Bytes.Recovery

/-!
The constant pool under construction. Its index is the inverse of its entries, entries never move,
and a pool that overflowed stays marked. So an index that was handed out while the pool grew is the
one under which the finished pool holds the literal, and the entries are read back as they were
written.
-/

namespace EntityForge

namespace ConstantTable

theorem get_eq_ok_iff {table : ConstantTable} {index : UInt16} {c : Constant} :
    table.get index = .ok c ↔ index ≠ 0 ∧ table[index.toNat - 1]? = some c := by
  unfold get
  split
  · next hzero => simp [hzero]
  · next hzero =>
    split
    · next d hget => simp [hzero, hget]
    · next hget => simp [hget]

theorem utf8At_of_get {table : ConstantTable} {index : UInt16} {s : String}
    (h : table.get index = .ok (.text s)) : table.utf8At index = .ok s := by
  simp [utf8At, h]

theorem index_ne_zero {table : ConstantTable} {index : UInt16} {c : Constant}
    (h : table.get index = .ok c) : index ≠ 0 :=
  (get_eq_ok_iff.mp h).1

end ConstantTable

namespace ConstantPool

/-- The index knows every entry at its place and nothing else. A pool is only marked when it is
full. -/
structure Sound (pool : ConstantPool) : Prop where
  size_le : pool.entries.size ≤ maxEntries
  index_iff : ∀ (c : Constant) (i : UInt16),
    pool.index[c]? = some i ↔ pool.entries.get i = .ok c
  full : pool.overflowed = true → pool.entries.size = maxEntries

/-- One pool came before another one: what it knew is still known, and its mark is kept. -/
structure Grows (before after : ConstantPool) : Prop where
  index : ∀ (c : Constant) (i : UInt16), before.index[c]? = some i → after.index[c]? = some i
  overflowed : before.overflowed = true → after.overflowed = true

namespace Grows

theorem refl (pool : ConstantPool) : pool.Grows pool := ⟨fun _ _ h => h, fun h => h⟩

theorem trans {p q r : ConstantPool} (h : p.Grows q) (h' : q.Grows r) : p.Grows r :=
  ⟨fun c i hc => h'.index c i (h.index c i hc), fun ho => h'.overflowed (h.overflowed ho)⟩

end Grows

theorem sound_empty : Sound {} where
  size_le := Nat.zero_le _
  index_iff c i := by simp [ConstantTable.get_eq_ok_iff]
  full h := by cases h

/-- What a pool does with a literal: it knows it already, adds it behind the others, or is full. -/
theorem intern_cases (pool : ConstantPool) (c : Constant) :
    (∃ i, pool.index[c]? = some i ∧ pool.intern c = (i, pool)) ∨
    (pool.index[c]? = none ∧ pool.entries.size < maxEntries ∧
      pool.intern c = (UInt16.ofNat (pool.entries.size + 1),
        { pool with
          entries := pool.entries.push c
          index := pool.index.insert c (UInt16.ofNat (pool.entries.size + 1)) })) ∨
    (pool.index[c]? = none ∧ maxEntries ≤ pool.entries.size ∧
      pool.intern c = (0, { pool with overflowed := true })) := by
  unfold intern
  cases hc : pool.index[c]? with
  | some i => exact .inl ⟨i, rfl, rfl⟩
  | none =>
    by_cases hroom : pool.entries.size < maxEntries
    · exact .inr (.inl ⟨rfl, hroom, by simp [hroom]⟩)
    · exact .inr (.inr ⟨rfl, Nat.le_of_not_lt hroom, by simp [hroom]⟩)

theorem intern_grows (pool : ConstantPool) (c : Constant) : pool.Grows (pool.intern c).2 := by
  obtain ⟨i, _, heq⟩ | ⟨hnew, _, heq⟩ | ⟨_, _, heq⟩ := intern_cases pool c
  · rw [heq]
    exact .refl pool
  · rw [heq]
    refine ⟨fun d i hd => ?_, fun h => h⟩
    have hne : c ≠ d := by
      rintro rfl
      cases hnew.symm.trans hd
    simpa [Std.HashMap.getElem?_insert, hne] using hd
  · rw [heq]
    exact ⟨fun _ _ h => h, fun _ => rfl⟩

/-- The place of a new entry is a valid index. -/
private theorem toNat_next {n : Nat} (h : n < maxEntries) :
    (UInt16.ofNat (n + 1)).toNat = n + 1 := by
  have hlt : n + 1 < 2 ^ 16 := by
    unfold maxEntries at h
    omega
  exact UInt16.toNat_ofNat_of_lt' hlt

theorem intern_sound {pool : ConstantPool} (h : pool.Sound) (c : Constant) :
    (pool.intern c).2.Sound := by
  obtain ⟨i, _, heq⟩ | ⟨hnew, hroom, heq⟩ | ⟨_, hfull, heq⟩ := intern_cases pool c
  · rw [heq]
    exact h
  · rw [heq]
    have hplace := toNat_next hroom
    refine ⟨by simpa using Nat.succ_le_of_lt hroom, fun d i => ?_, fun ho => ?_⟩
    · by_cases hd : c = d
      · -- The new entry stands at the new place only, since it was not known before.
        subst hd
        simp only [Std.HashMap.getElem?_insert_self, Option.some.injEq,
          ConstantTable.get_eq_ok_iff, Array.getElem?_push]
        constructor
        · rintro rfl
          refine ⟨fun hzero => ?_, by rw [hplace]; simp⟩
          rw [hzero] at hplace
          cases hplace
        · rintro ⟨hzero, hget⟩
          split at hget
          · next hi =>
            have hpos : i.toNat ≠ 0 := fun h0 => hzero (UInt16.toNat_inj.mp (by simpa using h0))
            apply UInt16.toNat_inj.mp
            omega
          · have hold := (h.index_iff c i).mpr (ConstantTable.get_eq_ok_iff.mpr ⟨hzero, hget⟩)
            cases hnew.symm.trans hold
      · have hkeep : (pool.index.insert c (UInt16.ofNat (pool.entries.size + 1)))[d]? =
            pool.index[d]? := by
          simp [Std.HashMap.getElem?_insert, hd]
        rw [hkeep, h.index_iff, ConstantTable.get_eq_ok_iff, ConstantTable.get_eq_ok_iff,
          Array.getElem?_push]
        refine and_congr_right fun hzero => ?_
        split
        · next hi =>
          rw [hi]
          simp [hd]
        · rfl
    · have hsize := h.full ho
      omega
  · rw [heq]
    exact ⟨h.size_le, h.index_iff, fun _ => Nat.le_antisymm h.size_le hfull⟩

/-- The index under which a pool holds a literal, zero when it holds none. -/
def reference (pool : ConstantPool) (c : Constant) : UInt16 := (pool.index[c]?).getD 0

/-- An index handed out while a pool grows is the one that the finished pool refers by. -/
theorem intern_reference {p q : ConstantPool} {c : Constant} (h : (p.intern c).2.Grows q)
    (hq : q.overflowed = false) : (p.intern c).1 = q.reference c := by
  unfold reference
  obtain ⟨i, hi, heq⟩ | ⟨_, _, heq⟩ | ⟨_, _, heq⟩ := intern_cases p c
  · rw [heq] at h ⊢
    rw [h.index c i hi, Option.getD_some]
  · rw [heq] at h ⊢
    rw [h.index c _ Std.HashMap.getElem?_insert_self, Option.getD_some]
  · rw [heq] at h
    have hover := h.overflowed rfl
    rw [hq] at hover
    cases hover

/-! Interning several literals in turn. -/

/-- The pool after some literals. -/
def internAll (pool : ConstantPool) (constants : List Constant) : ConstantPool :=
  constants.foldl (fun p c => (p.intern c).2) pool

@[simp] theorem internAll_nil (pool : ConstantPool) : pool.internAll [] = pool := rfl

@[simp] theorem internAll_cons (pool : ConstantPool) (c : Constant) (cs : List Constant) :
    pool.internAll (c :: cs) = (pool.intern c).2.internAll cs := rfl

@[simp] theorem internAll_append (pool : ConstantPool) (cs ds : List Constant) :
    pool.internAll (cs ++ ds) = (pool.internAll cs).internAll ds :=
  List.foldl_append

theorem internAll_grows (pool : ConstantPool) (cs : List Constant) :
    pool.Grows (pool.internAll cs) := by
  induction cs generalizing pool with
  | nil => exact .refl pool
  | cons c cs ih => exact (pool.intern_grows c).trans (ih _)

theorem internAll_sound {pool : ConstantPool} (h : pool.Sound) (cs : List Constant) :
    (pool.internAll cs).Sound := by
  induction cs generalizing pool with
  | nil => exact h
  | cons c cs ih => exact ih (intern_sound h c)

/-- Every literal that was interned stands where the pool refers to it, unless the pool
overflowed. -/
theorem internAll_get {pool : ConstantPool} (h : pool.Sound) {cs : List Constant}
    (hfits : (pool.internAll cs).overflowed = false) {c : Constant} (hc : c ∈ cs) :
    (pool.internAll cs).entries.get ((pool.internAll cs).reference c) = .ok c := by
  induction cs generalizing pool with
  | nil => cases hc
  | cons d cs ih =>
    rcases List.mem_cons.mp hc with rfl | hin
    · have hgrows := internAll_grows (pool.intern c).2 cs
      obtain ⟨i, hi⟩ : ∃ i, (pool.intern c).2.index[c]? = some i := by
        obtain ⟨i, hi, heq⟩ | ⟨_, _, heq⟩ | ⟨_, _, heq⟩ := intern_cases pool c
        · exact ⟨i, by rw [heq]; exact hi⟩
        · exact ⟨_, by rw [heq]; exact Std.HashMap.getElem?_insert_self⟩
        · have hover := hgrows.overflowed (by rw [heq])
          cases hfits.symm.trans hover
      have hlast := hgrows.index c i hi
      have hsound := internAll_sound (intern_sound h c) cs
      rw [internAll_cons, reference, hlast, Option.getD_some]
      exact (hsound.index_iff c i).mp hlast
    · exact ih (intern_sound h d) hfits hin

/-- A pool with bytes did not overflow. -/
theorem overflowed_of_toBytes {pool : ConstantPool} {bytes : Bytes}
    (h : pool.toBytes = .ok bytes) : pool.overflowed = false := by
  unfold toBytes at h
  split at h
  · cases h
  · next hfits => simpa using fun hover => hfits (.inl hover)

end ConstantPool

end EntityForge
