import EntityForge.Proofs.Class.Layout
import Mathlib.Algebra.Order.BigOperators.Group.List
import Mathlib.Algebra.Order.Ring.Nat
import Mathlib.Data.List.Nodup
import Mathlib.Data.List.Perm.Subperm

/-!
Classes within the limits of the format. A class can be written if its literals all stand in some
table that a pool has room for, and its other tables and its code can be counted: the pool holds
each literal once, so it is no greater than that table.
-/

namespace EntityForge

/-! The sizes of parts do not depend on where the literals stand. -/

/-- The number of bytes of a literal in a pool. -/
def Constant.size : Constant → Nat
  | .text s => 3 + s.utf8ByteSize
  | .int _ | .float _ => 5
  | .long _ | .double _ => 9

/-- The number of bytes of literals that stand in a pool. -/
def poolSize (constants : List Constant) : Nat := (constants.map Constant.size).sum

def Operand.size : Operand → Nat
  | .byte _ => 1
  | .word _ | .constant _ => 2

def Instruction.size (i : Instruction) : Nat := 1 + (i.operands.map Operand.size).sum

def codeSize (code : List Instruction) : Nat := (code.map Instruction.size).sum

/-- The number of bytes of a method: its five items, and its code. -/
def MethodDef.size (m : MethodDef) : Nat := 12 + codeSize m.code

/-- The number of bytes of a class behind its pool. -/
def ClassBody.size (b : ClassBody) : Nat :=
  15 + 2 * b.interfaces.length + 8 * b.fields.length + (b.methods.map (·.size)).sum

section Sizes

variable (ref : Constant → UInt16)

theorem operandLayout_length (i : Instruction) :
    (i.operandLayout ref).length + 1 = i.size := by
  have hoperand (o : Operand) : (o.layout ref).length = o.size := by cases o <;> rfl
  rw [Instruction.operandLayout, Instruction.size, List.length_flatMap, Nat.add_comm]
  simp only [hoperand]

theorem codeLayout_length (code : List Instruction) :
    (codeLayout ref code).length = codeSize code := by
  unfold codeLayout codeSize
  rw [List.length_flatMap]
  simp only [List.length_cons, operandLayout_length]

theorem layout_length (b : ClassBody) : (b.layout ref).length = b.size := by
  have hmethod (m : MethodDef) : (m.imageBy ref).layout.length = m.size := by
    simp [MethodImage.layout, MethodDef.imageBy, codeLayout_length, MethodDef.size,
      BigEndian.word16, BigEndian.word32]
    omega
  unfold ClassBody.layout ClassBody.size
  simp only [List.length_append, List.length_cons, List.length_flatMap, hmethod]
  simp [BigEndian.word16, ClassImage.fieldBytes]
  omega

end Sizes

/-- Each instruction takes at most eight bytes. -/
theorem Instruction.size_le (i : Instruction) : i.size ≤ 8 := by
  cases i <;> simp [size, operands, textOperand, boolOperand, Operand.size]

theorem codeSize_le (code : List Instruction) : codeSize code ≤ 8 * code.length := by
  induction code with
  | nil => exact Nat.le_refl 0
  | cons i code ih =>
    have hsize := i.size_le
    simp only [codeSize, List.map_cons, List.sum_cons, List.length_cons] at ih ⊢
    omega

/-- A literal that a pool can hold: texts have at most 65535 bytes. -/
def Constant.Short : Constant → Prop
  | .text s => s.utf8ByteSize ≤ 65535
  | _ => True

instance : (c : Constant) → Decidable c.Short
  | .text s => inferInstanceAs (Decidable (s.utf8ByteSize ≤ 65535))
  | .int _ | .long _ | .float _ | .double _ => .isTrue trivial

namespace ConstantPool

theorem entryBytes_of_short {c : Constant} (h : c.Short) :
    ∃ bytes, entryBytes c = .ok bytes := by
  cases c with
  | text s => exact ⟨_, by rw [entryBytes, if_pos (show s.utf8ByteSize ≤ 65535 from h)]⟩
  | _ => exact ⟨_, rfl⟩

theorem entryBytes_length {c : Constant} {bytes : Bytes} (h : entryBytes c = .ok bytes) :
    bytes.length = c.size := by
  cases c with
  | text s =>
    simp only [entryBytes] at h
    split at h
    · cases h
      rw [List.cons_append, List.length_cons, List.length_append, utf8_length, Constant.size]
      simp [BigEndian.word16]
      omega
    · cases h
  | _ =>
    cases h
    rfl

theorem entriesBytes_length {constants : List Constant} {parts : List Bytes}
    (h : constants.mapM entryBytes = .ok parts) : parts.flatten.length = poolSize constants := by
  have hentries := Checked.mapM_eq_ok.mp h
  clear h
  induction hentries with
  | nil => rfl
  | cons hentry _ ih =>
    rw [List.flatten_cons, List.length_append, ih, entryBytes_length hentry, poolSize, poolSize,
      List.map_cons, List.sum_cons]

/-- The bytes of a pool are the number of its entries and the entries. -/
theorem toBytes_length {pool : ConstantPool} {bytes : Bytes} (h : pool.toBytes = .ok bytes) :
    bytes.length = 2 + poolSize pool.entries.toList := by
  unfold toBytes at h
  split at h
  · cases h
  · obtain ⟨parts, hparts, rfl⟩ := Checked.map_eq_ok.mp h
    rw [List.length_append, entriesBytes_length hparts]
    rfl

theorem mem_internAll {pool : ConstantPool} {cs : List Constant} {c : Constant}
    (hc : c ∈ (pool.internAll cs).entries) : c ∈ pool.entries ∨ c ∈ cs := by
  induction cs generalizing pool with
  | nil => exact .inl hc
  | cons d cs ih =>
    rw [internAll_cons] at hc
    rcases ih hc with hold | hin
    · obtain ⟨i, _, heq⟩ | ⟨_, _, heq⟩ | ⟨_, _, heq⟩ := intern_cases pool d <;> rw [heq] at hold
      · exact .inl hold
      · rcases Array.mem_push.mp hold with hbefore | rfl
        · exact .inl hbefore
        · exact .inr (by simp)
      · exact .inl hold
    · exact .inr (by simp [hin])

/-- A pool knows each of its entries at its place. -/
theorem Sound.index_at {pool : ConstantPool} (h : pool.Sound) {n : Nat} {c : Constant}
    (hc : pool.entries[n]? = some c) :
    ∃ i, pool.index[c]? = some i ∧ i.toNat = n + 1 := by
  have hn : n < pool.entries.size := (Array.getElem?_eq_some_iff.mp hc).1
  have hsize : pool.entries.size ≤ 65535 := h.size_le
  have hplace : (UInt16.ofNat (n + 1)).toNat = n + 1 :=
    UInt16.toNat_ofNat_of_lt' (show n + 1 < 2 ^ 16 by omega)
  refine ⟨UInt16.ofNat (n + 1), (h.index_iff c _).mpr (ConstantTable.get_eq_ok_iff.mpr ⟨?_, ?_⟩),
    hplace⟩
  · intro hzero
    rw [hzero] at hplace
    cases hplace
  · rw [hplace, Nat.add_sub_cancel, hc]

theorem Sound.nodup {pool : ConstantPool} (h : pool.Sound) : pool.entries.toList.Nodup := by
  rw [List.nodup_iff_getElem?_ne_getElem?]
  intro i j hij hj heq
  rw [Array.length_toList] at hj
  rw [Array.getElem?_toList, Array.getElem?_toList] at heq
  obtain ⟨c, hc⟩ : ∃ c, pool.entries[j]? = some c := ⟨_, Array.getElem?_eq_getElem hj⟩
  obtain ⟨first, hfirst, hi⟩ := h.index_at (heq.trans hc)
  obtain ⟨second, hsecond, hj⟩ := h.index_at hc
  cases hfirst.symm.trans hsecond
  omega

/-- A literal that a pool does not know is not in it. -/
theorem Sound.not_mem {pool : ConstantPool} (h : pool.Sound) {c : Constant}
    (hnew : pool.index[c]? = none) : c ∉ pool.entries.toList := by
  intro hc
  obtain ⟨n, hn⟩ := List.getElem?_of_mem hc
  rw [Array.getElem?_toList] at hn
  obtain ⟨i, hi, _⟩ := h.index_at hn
  cases hnew.symm.trans hi

/-- A pool is not marked while it only holds literals of a table that it has room for. -/
theorem internAll_fits {pool : ConstantPool} (h : pool.Sound) (hfits : pool.overflowed = false)
    {table cs : List Constant} (hroom : table.length ≤ maxEntries)
    (hentries : pool.entries.toList ⊆ table) (hcs : cs ⊆ table) :
    (pool.internAll cs).overflowed = false := by
  induction cs generalizing pool with
  | nil => exact hfits
  | cons c cs ih =>
    obtain ⟨hc, hcs⟩ := List.cons_subset.mp hcs
    have hsound := intern_sound h c
    rw [internAll_cons]
    obtain ⟨i, _, heq⟩ | ⟨_, _, heq⟩ | ⟨hnew, hfull, _⟩ := intern_cases pool c
    · rw [heq]
      exact ih h hfits hentries hcs
    · rw [heq] at hsound ⊢
      refine ih hsound hfits ?_ hcs
      rw [Array.toList_push]
      exact List.append_subset.mpr ⟨hentries, List.cons_subset.mpr ⟨hc, List.nil_subset _⟩⟩
    · -- The table would hold one literal more than the full pool does.
      have hnodup : (c :: pool.entries.toList).Nodup :=
        List.nodup_cons.mpr ⟨h.not_mem hnew, h.nodup⟩
      have hlength := hnodup.length_le_of_subset (List.cons_subset.mpr ⟨hc, hentries⟩)
      rw [List.length_cons, Array.length_toList] at hlength
      omega

/-- What is held once is no greater than a table that holds it. -/
theorem poolSize_le {constants table : List Constant} (hnodup : constants.Nodup)
    (h : constants ⊆ table) : poolSize constants ≤ poolSize table := by
  obtain ⟨some, hperm, hsublist⟩ := hnodup.subperm h
  rw [poolSize, ← (hperm.map Constant.size).sum_eq]
  exact (hsublist.map Constant.size).sum_le_sum fun _ _ => Nat.zero_le _

end ConstantPool

open ConstantPool

namespace ClassBody

/-- A table has all literals of a class, and the rest of the class can be counted. -/
structure Backed (b : ClassBody) (table : List Constant) : Prop where
  room : table.length ≤ maxEntries
  short : ∀ c ∈ table, c.Short
  constants : b.constants ⊆ table
  interfaces : b.interfaces.length ≤ 65535
  fields : b.fields.length ≤ 65535
  methods : b.methods.length ≤ 65535
  code : ∀ m ∈ b.methods, codeSize m.code < 2 ^ 32

/-- A class can be written if a table backs it, and the bytes are no more than the table needs. -/
theorem encode_of_backed {b : ClassBody} {table : List Constant} (h : b.Backed table) :
    ∃ bytes, b.encode = .ok bytes ∧ bytes.length ≤ 8 + poolSize table + b.size := by
  have hsound : b.pool.Sound := internAll_sound sound_empty b.constants
  have hfits : b.pool.overflowed = false :=
    internAll_fits sound_empty rfl h.room (List.nil_subset _) h.constants
  have hentries : b.pool.entries.toList ⊆ table := fun c hc => by
    rcases mem_internAll (Array.mem_toList_iff.mp hc) with hempty | hin
    · simp at hempty
    · exact h.constants hin
  obtain ⟨parts, hparts⟩ :=
    Checked.mapM_ok fun c hc => entryBytes_of_short (h.short c (hentries hc))
  obtain ⟨poolBytes, hpool⟩ : ∃ poolBytes, b.pool.toBytes = .ok poolBytes := by
    unfold toBytes
    rw [if_neg (by simp [hfits, hsound.size_le]), hparts]
    exact ⟨_, rfl⟩
  have hcode : ∀ m ∈ b.methods, (codeLayout b.pool.reference m.code).length < 2 ^ 32 := by
    simpa only [codeLayout_length] using h.code
  refine ⟨_, encode_ok_iff.mpr ⟨⟨h.interfaces, h.fields, h.methods, hcode⟩, _, hpool, rfl⟩, ?_⟩
  have hle := poolSize_le hsound.nodup hentries
  simp only [List.length_append, layout_length, toBytes_length hpool]
  simp [magic, BigEndian.word16]
  omega

/-- A class within the limits, with literals counted as often as they occur. -/
structure Limited (b : ClassBody) : Prop where
  constants : b.constants.length ≤ maxEntries
  texts : ∀ c ∈ b.constants, c.Short
  interfaces : b.interfaces.length ≤ 65535
  fields : b.fields.length ≤ 65535
  methods : b.methods.length ≤ 65535
  code : ∀ m ∈ b.methods, m.code.length < 2 ^ 28

instance (b : ClassBody) : Decidable b.Limited :=
  decidable_of_iff
    (b.constants.length ≤ maxEntries ∧ (∀ c ∈ b.constants, c.Short) ∧
      b.interfaces.length ≤ 65535 ∧ b.fields.length ≤ 65535 ∧ b.methods.length ≤ 65535 ∧
      ∀ m ∈ b.methods, m.code.length < 2 ^ 28)
    ⟨fun ⟨h₁, h₂, h₃, h₄, h₅, h₆⟩ => ⟨h₁, h₂, h₃, h₄, h₅, h₆⟩,
     fun h => ⟨h.constants, h.texts, h.interfaces, h.fields, h.methods, h.code⟩⟩

/-- A class within the limits is backed by its own literals. -/
theorem Limited.backed {b : ClassBody} (h : b.Limited) : b.Backed b.constants where
  room := h.constants
  short := h.texts
  constants := List.Subset.refl _
  interfaces := h.interfaces
  fields := h.fields
  methods := h.methods
  code m hm := by
    have hsize := codeSize_le m.code
    have hlength := h.code m hm
    omega

theorem encode_of_limited {b : ClassBody} (h : b.Limited) : ∃ bytes, b.encode = .ok bytes := by
  obtain ⟨bytes, hbytes, _⟩ := encode_of_backed h.backed
  exact ⟨bytes, hbytes⟩

end ClassBody

end EntityForge
