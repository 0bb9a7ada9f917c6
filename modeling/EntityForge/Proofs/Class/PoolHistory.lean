import EntityForge.Proofs.Class.Limits
import EntityForge.Proofs.Class.RoundTrip
import Mathlib.Data.List.Infix

/-!
Histories of a pool. Indices are asked for one after the other, for names and for literals; a name
and a literal text are one item. What was answered once stays true: entries keep their places, an
item keeps its index, and an item that found the pool full never gets one, which leaves its mark on
the pool for good. A pool without the mark is written and read back.
-/

namespace EntityForge

inductive PoolRequest where
  | name (s : String)
  | literal (c : Constant)

def PoolRequest.item : PoolRequest → Constant
  | name s => .text s
  | literal c => c

namespace ConstantPool

def answer (pool : ConstantPool) : PoolRequest → UInt16 × ConstantPool
  | .name s => pool.internText s
  | .literal c => pool.intern c

def afterRequests (pool : ConstantPool) (requests : List PoolRequest) : ConstantPool :=
  requests.foldl (fun pool request => (pool.answer request).2) pool

def answers (pool : ConstantPool) : List PoolRequest → List UInt16
  | [] => []
  | request :: rest => (pool.answer request).1 :: (pool.answer request).2.answers rest

variable {pool : ConstantPool} {c : Constant}

theorem answer_eq (pool : ConstantPool) (request : PoolRequest) :
    pool.answer request = pool.intern request.item := by
  cases request <;> rfl

theorem afterRequests_eq (pool : ConstantPool) (requests : List PoolRequest) :
    pool.afterRequests requests = pool.internAll (requests.map (·.item)) := by
  unfold afterRequests internAll
  rw [List.foldl_map]
  simp only [answer_eq]

/-! Entries keep their places. -/

theorem intern_entries_kept (pool : ConstantPool) (c : Constant) :
    pool.entries.toList <+: (pool.intern c).2.entries.toList := by
  obtain ⟨i, _, heq⟩ | ⟨_, _, heq⟩ | ⟨_, _, heq⟩ := intern_cases pool c
  · rw [heq]
  · rw [heq, Array.toList_push]
    exact List.prefix_append _ _
  · rw [heq]

theorem internAll_entries_kept (pool : ConstantPool) (cs : List Constant) :
    pool.entries.toList <+: (pool.internAll cs).entries.toList := by
  induction cs generalizing pool with
  | nil => exact List.prefix_refl _
  | cons c cs ih => exact (intern_entries_kept pool c).trans (ih _)

/-- A full pool stays as it is. -/
theorem Sound.entries_of_full (h : pool.Sound) (hfull : pool.entries.size = maxEntries)
    (cs : List Constant) : (pool.internAll cs).entries.toList = pool.entries.toList := by
  refine ((internAll_entries_kept pool cs).eq_of_length_le ?_).symm
  rw [Array.length_toList, Array.length_toList, hfull]
  exact (internAll_sound h cs).size_le

/-! The index that is answered. -/

/-- An index other than zero is known from then on. -/
theorem intern_index (h : (pool.intern c).1 ≠ 0) :
    (pool.intern c).2.index[c]? = some (pool.intern c).1 := by
  obtain ⟨i, hi, heq⟩ | ⟨_, _, heq⟩ | ⟨_, _, heq⟩ := intern_cases pool c
  · rw [heq]
    exact hi
  · rw [heq]
    exact Std.HashMap.getElem?_insert_self
  · rw [heq] at h
    exact absurd rfl h

theorem intern_of_index {i : UInt16} (h : pool.index[c]? = some i) : pool.intern c = (i, pool) := by
  rw [intern, h]

/-- Zero is answered to a new item of a full pool, and to no other; it leaves the mark. -/
theorem Sound.intern_zero (h : pool.Sound) (c : Constant) :
    ((pool.intern c).1 = 0 ↔ c ∉ pool.entries.toList ∧ pool.entries.size = maxEntries) ∧
      ((pool.intern c).2.overflowed = true ↔ pool.overflowed = true ∨ (pool.intern c).1 = 0) := by
  have hsound := intern_sound h c
  obtain ⟨i, hi, heq⟩ | ⟨_, hroom, heq⟩ | ⟨hnew, hfull, heq⟩ := intern_cases pool c
  · have hget := (h.index_iff c i).mp hi
    have hne := ConstantTable.index_ne_zero hget
    have hin : c ∈ pool.entries.toList := by
      obtain ⟨_, hat⟩ := ConstantTable.get_eq_ok_iff.mp hget
      exact Array.mem_toList_iff.mpr (Array.mem_of_getElem? hat)
    rw [heq]
    exact ⟨iff_of_false hne fun hnew => hnew.1 hin, (or_iff_left hne).symm⟩
  · rw [heq] at hsound ⊢
    have hne := ConstantTable.index_ne_zero
      ((hsound.index_iff c _).mp Std.HashMap.getElem?_insert_self)
    exact ⟨iff_of_false hne fun hfull => Nat.ne_of_lt hroom hfull.2, (or_iff_left hne).symm⟩
  · rw [heq]
    exact ⟨iff_of_true rfl ⟨h.not_mem hnew, Nat.le_antisymm h.size_le hfull⟩,
      iff_of_true rfl (.inr rfl)⟩

/-- An item is answered the same again, whatever was asked for in between. -/
theorem Sound.intern_again (h : pool.Sound) (c : Constant) (cs : List Constant) :
    (((pool.intern c).2.internAll cs).intern c).1 = (pool.intern c).1 := by
  by_cases hzero : (pool.intern c).1 = 0
  · have hsound := intern_sound h c
    obtain ⟨hnew, hfull⟩ := (h.intern_zero c).1.mp hzero
    -- The pool was full before the request already, so that nothing was added since.
    have hsame : ((pool.intern c).2.internAll cs).entries.toList = pool.entries.toList :=
      h.entries_of_full hfull (c :: cs)
    have hsize : ((pool.intern c).2.internAll cs).entries.size = maxEntries := by
      rw [← Array.length_toList, hsame, Array.length_toList, hfull]
    rw [hzero]
    exact ((internAll_sound hsound cs).intern_zero c).1.mpr ⟨hsame ▸ hnew, hsize⟩
  · have hknown := (internAll_grows (pool.intern c).2 cs).index c _ (intern_index hzero)
    rw [intern_of_index hknown]

/-- An index that was answered leads to the item for good. -/
theorem Sound.intern_get (h : pool.Sound) (hindex : (pool.intern c).1 ≠ 0) (cs : List Constant) :
    ((pool.intern c).2.internAll cs).entries.get (pool.intern c).1 = .ok c := by
  have hknown := (internAll_grows (pool.intern c).2 cs).index c _ (intern_index hindex)
  exact ((internAll_sound (intern_sound h c) cs).index_iff c _).mp hknown

/-- The pool has the mark exactly if it had it before or zero was answered. -/
theorem Sound.overflowed_iff (h : pool.Sound) (requests : List PoolRequest) :
    (pool.afterRequests requests).overflowed = true ↔
      pool.overflowed = true ∨ 0 ∈ pool.answers requests := by
  induction requests generalizing pool with
  | nil => simp [afterRequests, answers]
  | cons request rest ih =>
    have hrest := ih (intern_sound h request.item)
    rw [(h.intern_zero request.item).2, or_assoc, ← answer_eq] at hrest
    rw [answers, List.mem_cons, @eq_comm _ 0]
    exact hrest

/-! Writing and reading. -/

theorem short_of_entryBytes {bytes : Bytes} (h : entryBytes c = .ok bytes) : c.Short := by
  cases c with
  | text s =>
    by_contra hlong
    rw [entryBytes, if_neg (show ¬ s.utf8ByteSize ≤ 65535 from hlong)] at h
    cases h
  | _ => trivial

/-- A pool can be written exactly if it has no mark and no text in it is too long. -/
theorem Sound.toBytes_ok_iff (h : pool.Sound) : (∃ bytes, pool.toBytes = .ok bytes) ↔
    pool.overflowed = false ∧ ∀ c ∈ pool.entries.toList, c.Short := by
  constructor
  · rintro ⟨bytes, hbytes⟩
    refine ⟨overflowed_of_toBytes hbytes, fun c hc => ?_⟩
    unfold toBytes at hbytes
    split at hbytes
    · cases hbytes
    · obtain ⟨parts, hparts, _⟩ := Checked.map_eq_ok.mp hbytes
      obtain ⟨part, _, hpart⟩ := Checked.forall₂_mem_left (Checked.mapM_eq_ok.mp hparts) hc
      exact short_of_entryBytes hpart
  · rintro ⟨hfits, hshort⟩
    obtain ⟨parts, hparts⟩ := Checked.mapM_ok fun c hc => entryBytes_of_short (hshort c hc)
    unfold toBytes
    rw [if_neg (by simp [hfits, h.size_le]), hparts]
    exact ⟨_, rfl⟩

/-- Whatever was asked for before and after, a request is answered for good. No item has two entries,
entries keep their places, and no more than 65535 fit. An index other than zero leads to what was
asked for, at any later time, and the same request is answered the same. Zero is answered exactly
where the item is new and the pool full, and from then on the pool has the mark and cannot be
written. A pool of which no request was answered zero is written exactly if no text in it is too
long, and its entries are read back from the bytes. -/
theorem requests_answered (before later : List PoolRequest) (request : PoolRequest) :
    let pool := ({} : ConstantPool).afterRequests before
    let index := (pool.answer request).1
    let last := (pool.answer request).2.afterRequests later
    pool.entries.toList.Nodup ∧ pool.entries.size ≤ 65535 ∧
    pool.entries.toList <+: last.entries.toList ∧
    (index ≠ 0 → last.entries.get index = .ok request.item ∧
      ∀ s, request.item = .text s → last.entries.utf8At index = .ok s) ∧
    (∀ again : PoolRequest, again.item = request.item → (last.answer again).1 = index) ∧
    (index = 0 ↔ request.item ∉ pool.entries.toList ∧ pool.entries.size = 65535) ∧
    (index = 0 → last.overflowed = true ∧ last.toBytes = .error (.tooLarge .constantPool)) ∧
    (pool.overflowed = true ↔ 0 ∈ answers {} before) ∧
    ((∃ bytes, pool.toBytes = .ok bytes) ↔
      0 ∉ answers {} before ∧ ∀ c ∈ pool.entries.toList, c.Short) ∧
    ∀ bytes, pool.toBytes = .ok bytes → ∀ rest offset,
      FormatReader.pool.run ⟨bytes ++ rest, offset⟩ =
        .ok (pool.entries, ⟨rest, offset + bytes.length⟩) := by
  intro pool index last
  have hpool : pool.Sound := by
    rw [show pool = _ from afterRequests_eq {} before]
    exact internAll_sound sound_empty _
  have hindex : index = (pool.intern request.item).1 := by rw [← answer_eq]
  have hlast : last = (pool.intern request.item).2.internAll (later.map (·.item)) := by
    rw [← answer_eq]
    exact afterRequests_eq _ later
  have hmark : pool.overflowed = true ↔ 0 ∈ answers {} before := by
    have hboth := sound_empty.overflowed_iff before
    rwa [or_iff_right Bool.false_ne_true] at hboth
  refine ⟨hpool.nodup, hpool.size_le, ?_, ?_, ?_, ?_, ?_, hmark, ?_, ?_⟩
  · rw [hlast]
    exact internAll_entries_kept pool (request.item :: later.map (·.item))
  · intro hne
    have hget : last.entries.get index = .ok request.item := by
      rw [hlast, hindex]
      exact hpool.intern_get (hindex ▸ hne) _
    refine ⟨hget, fun s hs => ?_⟩
    rw [hs] at hget
    exact ConstantTable.utf8At_of_get hget
  · intro again hagain
    rw [answer_eq, hagain, hlast, hindex]
    exact hpool.intern_again request.item _
  · rw [hindex]
    exact (hpool.intern_zero request.item).1
  · intro hzero
    have hover : last.overflowed = true := by
      rw [hlast]
      apply (internAll_grows _ _).overflowed
      exact (hpool.intern_zero request.item).2.mpr (.inr (hindex ▸ hzero))
    refine ⟨hover, ?_⟩
    rw [toBytes, if_pos (.inl hover)]
  · rw [hpool.toBytes_ok_iff, ← hmark, Bool.not_eq_true]
  · intro bytes hbytes
    exact (FormatReader.pool_recovers hbytes).ok trivial

/-- A name and a literal text are one item. -/
example : ({} : ConstantPool).answers
    [.name "count", .literal (.int 21), .name "count", .literal (.text "count")] =
      [1, 2, 1, 1] := by
  cbv

end ConstantPool

end EntityForge
