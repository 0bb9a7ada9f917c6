import EntityForge.Proofs.Bytes.Consumption
import EntityForge.Proofs.Class.Acceptance
import EntityForge.Proofs.Class.RoundTrip

/-!
Writing again what was read. Every literal of a class that was read stands in the pool it was read
from, and every part takes as many bytes as it is written in. So the class can be written, in no
more bytes than were read; and since a pool holds each literal once, in the order of use, what is
written is the same whatever bytes the class came from.
-/

namespace EntityForge

open Reader (Spends)

namespace FormatReader

/-! Bytes and words. -/

theorem take_spends (n : Nat) : (take n).Spends fun bytes m => m = n ∧ bytes.length = n :=
  Spends.take _ n

theorem byte_spends : byte.Spends fun _ n => n = 1 := (take_spends 1).map fun _ _ h => h.1

theorem word16_spends : word16.Spends fun _ n => n = 2 := (take_spends 2).map fun _ _ h => h.1

theorem word32_spends : word32.Spends fun _ n => n = 4 := (take_spends 4).map fun _ _ h => h.1

theorem word64_spends : word64.Spends fun _ n => n = 8 := (take_spends 8).map fun _ _ h => h.1

/-! The pool. -/

/-- An entry that is read can be written, in as many bytes. -/
theorem poolEntry_spends (index : Nat) :
    (poolEntry index).Spends fun c n => c.Short ∧ n = c.size := by
  refine .offset fun offset => byte_spends.bind ?_
  rintro tag _ rfl
  split
  · refine word16_spends.bind ?_
    rintro length _ rfl
    refine (take_spends length.toNat).bind ?_
    rintro bytes _ ⟨rfl, hbytes⟩
    split
    · next s hs =>
      have hsize := size_of_fromUTF8? hs
      have hlt := length.toNat_lt
      refine .pure ⟨?_, ?_⟩
      · rw [Constant.Short]
        omega
      · rw [Constant.size]
        omega
    · exact .fail _
  · exact word32_spends.map fun _ _ h => ⟨trivial, by rw [h]; rfl⟩
  · exact word32_spends.map fun _ _ h => ⟨trivial, by rw [h]; rfl⟩
  · exact word64_spends.map fun _ _ h => ⟨trivial, by rw [h]; rfl⟩
  · exact word64_spends.map fun _ _ h => ⟨trivial, by rw [h]; rfl⟩
  · exact .fail _

/-- Entries are put behind those before them. -/
theorem poolEntries_spends (table : ConstantTable) (n : Nat) :
    (poolEntries table n).Spends fun filled m => ∃ more, filled.toList = table.toList ++ more ∧
      more.length = n ∧ (∀ c ∈ more, c.Short) ∧ m = poolSize more := by
  induction n generalizing table with
  | zero => exact .pure ⟨[], by simp, rfl, nofun, rfl⟩
  | succ n ih =>
    refine (poolEntry_spends (table.size + 1)).bind ?_
    rintro c _ ⟨hshort, rfl⟩ cursor filled d hrun
    obtain ⟨m, hm, more, hfilled, hlength, hmore, rfl⟩ := ih (table.push c) cursor filled d hrun
    refine ⟨_, hm, c :: more, ?_, ?_, List.forall_mem_cons.mpr ⟨hshort, hmore⟩, ?_⟩
    · rw [hfilled, Array.toList_push, List.append_assoc, List.singleton_append]
    · rw [List.length_cons, hlength]
    · rw [poolSize, poolSize, List.map_cons, List.sum_cons]

theorem pool_spends :
    pool.Spends fun table n => table.toList.length ≤ ConstantPool.maxEntries ∧
      (∀ c ∈ table.toList, c.Short) ∧ n = 2 + poolSize table.toList := by
  refine word16_spends.bind ?_
  rintro count _ rfl c table d hrun
  obtain ⟨m, hm, more, htable, hlength, hshort, rfl⟩ :=
    poolEntries_spends #[] count.toNat c table d hrun
  rw [List.nil_append] at htable
  have hlt := count.toNat_lt
  refine ⟨_, hm, ?_, htable ▸ hshort, by rw [htable]⟩
  rw [htable, hlength, ConstantPool.maxEntries]
  omega

/-! Names and literals by their index. -/

variable {table : ConstantTable}

theorem mem_of_get {index : UInt16} {c : Constant} (h : table.get index = .ok c) :
    c ∈ table.toList := by
  obtain ⟨_, hget⟩ := ConstantTable.get_eq_ok_iff.mp h
  exact Array.mem_toList_iff.mpr (Array.mem_of_getElem? hget)

theorem mem_of_utf8At {index : UInt16} {s : String} (h : table.utf8At index = .ok s) :
    .text s ∈ table.toList := by
  unfold ConstantTable.utf8At at h
  split at h
  · cases h
  · next hget =>
    cases h
    exact mem_of_get hget
  · cases h

variable (table)

theorem text_spends : (text table).Spends fun s n => .text s ∈ table.toList ∧ n = 2 := by
  refine word16_spends.bind ?_
  rintro index _ rfl
  exact .ofExcept fun s hs => ⟨mem_of_utf8At hs, rfl⟩

theorem optionalText_spends :
    (optionalText table).Spends fun s? n =>
      s?.toList.map Constant.text ⊆ table.toList ∧ n = 2 := by
  refine word16_spends.bind ?_
  rintro index _ rfl
  refine .ofExcept fun s? hs => ⟨?_, rfl⟩
  unfold ConstantTable.optionalUtf8At at hs
  split at hs
  · cases hs
    exact List.nil_subset _
  · obtain ⟨s, htext, rfl⟩ := Checked.map_eq_ok.mp hs
    exact List.cons_subset.mpr ⟨mem_of_utf8At htext, List.nil_subset _⟩

theorem constant_spends : (constant table).Spends fun c n => c ∈ table.toList ∧ n = 2 := by
  refine word16_spends.bind ?_
  rintro index _ rfl
  exact .ofExcept fun c hc => ⟨mem_of_get hc, rfl⟩

theorem optionalConstant_spends :
    (optionalConstant table).Spends fun c? n => c?.toList ⊆ table.toList ∧ n = 2 := by
  refine word16_spends.bind ?_
  rintro index _ rfl
  split
  · exact .pure ⟨List.nil_subset _, rfl⟩
  · refine Spends.map (P := fun c n => c ∈ table.toList ∧ n = 0) ?_ ?_
    · exact .ofExcept fun c hc => ⟨mem_of_get hc, rfl⟩
    · rintro c _ ⟨hc, rfl⟩
      exact ⟨List.cons_subset.mpr ⟨hc, List.nil_subset _⟩, rfl⟩

/-- A check of a text takes nothing. -/
theorem methodDescriptor_spends :
    (methodDescriptor table).Spends fun s n => .text s ∈ table.toList ∧ n = 2 := by
  refine (text_spends table).bind ?_
  rintro s _ ⟨hs, rfl⟩
  refine Spends.map (P := fun _ n => n = 0) (.ofExcept fun _ _ => rfl) ?_
  rintro _ _ rfl
  exact ⟨hs, rfl⟩

theorem castTarget_spends :
    (castTarget table).Spends fun s n => .text s ∈ table.toList ∧ n = 2 := by
  refine (text_spends table).bind ?_
  rintro s _ ⟨hs, rfl⟩
  split
  · refine Spends.map (P := fun _ n => n = 0) (.ofExcept fun _ _ => rfl) ?_
    rintro _ _ rfl
    exact ⟨hs, rfl⟩
  · exact .pure ⟨hs, rfl⟩

/-! Bytes that stand for something. -/

theorem coded_spends {α : Type} (ofByte? : UInt8 → Option α) (bad : UInt8 → Nat → FormatError) :
    (coded ofByte? bad).Spends fun _ n => n = 1 := by
  refine .offset fun offset => byte_spends.bind ?_
  rintro b _ rfl
  split
  · exact .pure rfl
  · exact .fail _

theorem primitive_spends : primitive.Spends fun _ n => n = 1 := coded_spends _ _

theorem bool_spends : bool.Spends fun _ n => n = 1 := byte_spends.map fun _ _ h => h

/-! Instructions. -/

/-- Operands that were read from as many bytes as they are written in, with their literals in the
table. -/
structure Held (operands : List Operand) (n : Nat) : Prop where
  constants : operands.flatMap Operand.constants ⊆ table.toList
  size : n = (operands.map Operand.size).sum

variable {table}

namespace Held

theorem nil : Held table [] 0 := ⟨List.nil_subset _, rfl⟩

theorem append {operands more : List Operand} {n m : Nat} (h : Held table operands n)
    (h' : Held table more m) : Held table (operands ++ more) (n + m) := by
  constructor
  · rw [List.flatMap_append]
    exact List.append_subset.mpr ⟨h.constants, h'.constants⟩
  · rw [h.size, h'.size, List.map_append, List.sum_append]

theorem byte (b : UInt8) {n : Nat} (h : n = 1) : Held table [.byte b] n := ⟨List.nil_subset _, h⟩

theorem word (w : UInt16) {n : Nat} (h : n = 2) : Held table [.word w] n := ⟨List.nil_subset _, h⟩

theorem constant {c : Constant} {n : Nat} (h : c ∈ table.toList ∧ n = 2) :
    Held table [.constant c] n :=
  ⟨List.cons_subset.mpr ⟨h.1, List.nil_subset _⟩, h.2⟩

end Held

variable (table)

/-- An instruction is read operand by operand. There is one case for each shape of operands. -/
theorem instruction_spends (offset : Nat) (opcode : UInt8) :
    (instruction table offset opcode).Spends fun i n => Held table i.operands n := by
  unfold instruction
  split
  case h_1 | h_3 | h_4 | h_5 | h_20 | h_23 | h_27 | h_28 => exact .pure .nil
  case h_2 => exact byte_spends.map fun _ _ h => .byte _ h
  case h_6 => exact bool_spends.map fun _ _ h => .byte _ h
  case h_7 => exact (constant_spends table).map fun _ _ h => .constant h
  case h_8 | h_9 | h_17 | h_21 | h_24 =>
    exact (text_spends table).bind fun _ _ hclass => (text_spends table).map fun _ _ hname =>
      (Held.constant hclass).append (.constant hname)
  case h_10 =>
    exact (text_spends table).bind fun _ _ hclass => (text_spends table).bind fun _ _ hname =>
      (methodDescriptor_spends table).map fun _ _ hdescriptor =>
        (Held.constant hclass).append ((Held.constant hname).append (.constant hdescriptor))
  case h_11 =>
    exact (text_spends table).bind fun _ _ hclass =>
      (methodDescriptor_spends table).map fun _ _ hdescriptor =>
        (Held.constant hclass).append (.constant hdescriptor)
  case h_12 => exact (castTarget_spends table).map fun _ _ h => .constant h
  case h_13 | h_14 => exact primitive_spends.map fun _ _ h => .byte _ h
  case h_15 =>
    exact (coded_spends _ _).bind fun _ _ hkind => (text_spends table).bind fun _ _ hraw =>
      (coded_spends _ _).bind fun _ _ hbound => byte_spends.bind fun _ _ hdims =>
        byte_spends.map fun _ _ hargc =>
          (Held.byte _ hkind).append ((Held.constant hraw).append ((Held.byte _ hbound).append
            ((Held.byte _ hdims).append (.byte _ hargc))))
  case h_16 => exact word16_spends.map fun _ _ h => .word _ h
  case h_18 | h_19 | h_26 => exact (text_spends table).map fun _ _ h => .constant h
  case h_22 =>
    exact (text_spends table).bind fun _ _ hclass => (text_spends table).bind fun _ _ hname =>
      (methodDescriptor_spends table).bind fun _ _ hdescriptor =>
        bool_spends.map fun _ _ hrequired =>
          (Held.constant hclass).append ((Held.constant hname).append
            ((Held.constant hdescriptor).append (.byte _ hrequired)))
  case h_25 => exact (coded_spends _ _).map fun _ _ h => .byte _ h
  case h_29 => exact .fail _

/-! Members. -/

variable {table} in
/-- The literals of parts that are all in the table. -/
theorem flatMap_constants {α : Type} {constants : α → List Constant} {items : List α}
    (h : ∀ x ∈ items, constants x ⊆ table.toList) : items.flatMap constants ⊆ table.toList := by
  intro c hc
  obtain ⟨x, hx, hcx⟩ := List.mem_flatMap.mp hc
  exact h x hx hcx

theorem code_spends {c : Cursor} {code : List Instruction}
    (h : Reader.untilEnd (instruction table) c = .ok code) :
    code.flatMap Instruction.constants ⊆ table.toList ∧ c.rest.length = codeSize code := by
  have hstep (offset : Nat) (opcode : UInt8) :
      (instruction table offset opcode).Spends fun i n =>
        i.constants ⊆ table.toList ∧ n + 1 = i.size := by
    intro c i d hrun
    obtain ⟨n, hn, hheld⟩ := instruction_spends table offset opcode c i d hrun
    exact ⟨n, hn, hheld.constants, by rw [hheld.size, Instruction.size, Nat.add_comm]⟩
  obtain ⟨hconstants, hsize⟩ := Spends.untilEnd hstep h
  exact ⟨flatMap_constants hconstants, hsize⟩

theorem field_spends :
    (field table).Spends fun f n => f.constants ⊆ table.toList ∧ n = 8 := by
  refine (text_spends table).bind ?_
  rintro name _ ⟨hname, rfl⟩
  refine (text_spends table).bind ?_
  rintro descriptor _ ⟨hdescriptor, rfl⟩
  refine word16_spends.bind ?_
  rintro flags _ rfl
  refine (optionalConstant_spends table).bind ?_
  rintro initial _ ⟨hinitial, rfl⟩
  refine Spends.map (P := fun _ n => n = 0) (.ofExcept fun _ _ => rfl) ?_
  rintro _ _ rfl
  exact ⟨List.cons_subset.mpr ⟨hname, List.cons_subset.mpr ⟨hdescriptor, hinitial⟩⟩, rfl⟩

/-- The length of code is read from four bytes, so it can be written in four bytes. -/
theorem method_spends :
    (method table).Spends fun m n =>
      (m.constants ⊆ table.toList ∧ codeSize m.code < 2 ^ 32) ∧ n = m.size := by
  refine (text_spends table).bind ?_
  rintro name _ ⟨hname, rfl⟩
  refine (text_spends table).bind ?_
  rintro descriptor _ ⟨hdescriptor, rfl⟩
  refine word16_spends.bind ?_
  rintro flags _ rfl
  refine word16_spends.bind ?_
  rintro maxLocals _ rfl
  refine word32_spends.bind ?_
  rintro length _ rfl
  refine .offset fun offset => (take_spends length.toNat).bind ?_
  rintro bytes _ ⟨rfl, hbytes⟩
  refine Spends.bind (P := fun code n =>
    (code.flatMap Instruction.constants ⊆ table.toList ∧ codeSize code = length.toNat) ∧ n = 0)
    (.ofExcept fun code hcode => ?_) ?_
  · obtain ⟨hconstants, hsize⟩ := code_spends table hcode
    exact ⟨⟨hconstants, hsize.symm.trans hbytes⟩, rfl⟩
  · rintro code _ ⟨⟨hcode, hsize⟩, rfl⟩
    refine Spends.map (P := fun _ n => n = 0) (.ofExcept fun _ _ => rfl) ?_
    rintro _ _ rfl
    refine ⟨⟨?_, ?_⟩, ?_⟩
    · exact List.cons_subset.mpr ⟨hname, List.cons_subset.mpr ⟨hdescriptor, hcode⟩⟩
    · exact hsize ▸ length.toNat_lt
    · rw [MethodDef.size, hsize]
      omega

theorem head_spends : head.Spends fun _ n => n = 6 := by
  refine (Spends.take _ magic.length).bind ?_
  rintro bytes _ ⟨rfl, _⟩
  split
  · exact .fail _
  · refine word16_spends.bind ?_
    rintro version _ rfl
    split
    · exact .fail _
    · exact .pure rfl

/-- A class that is read is backed by the table of its pool, and the bytes are those of the table
and of the class. -/
theorem classBody_spends :
    classBody.Spends fun b n => ∃ constants, b.Backed constants ∧
      n = 8 + poolSize constants + b.size := by
  refine head_spends.bind ?_
  rintro _ _ rfl
  refine pool_spends.bind ?_
  rintro table _ ⟨hroom, hshort, rfl⟩
  refine (text_spends table).bind ?_
  rintro name _ ⟨hname, rfl⟩
  refine byte_spends.bind ?_
  rintro tag _ rfl
  refine Spends.bind (P := fun _ n => n = 0) (.ofExcept fun _ _ => rfl) ?_
  rintro kind _ rfl
  refine word16_spends.bind ?_
  rintro flags _ rfl
  refine (optionalText_spends table).bind ?_
  rintro superName _ ⟨hsuper, rfl⟩
  refine (optionalText_spends table).bind ?_
  rintro signature _ ⟨hsignature, rfl⟩
  refine word16_spends.bind ?_
  rintro interfaceCount _ rfl
  refine ((text_spends table).times _).bind ?_
  rintro interfaces _ ⟨hinterfaceCount, hinterfaces, rfl⟩
  refine word16_spends.bind ?_
  rintro fieldCount _ rfl
  refine ((field_spends table).times _).bind ?_
  rintro fields _ ⟨hfieldCount, hfields, rfl⟩
  refine word16_spends.bind ?_
  rintro methodCount _ rfl
  refine ((method_spends table).times _).bind ?_
  rintro methods _ ⟨hmethodCount, hmethods, rfl⟩
  refine .remaining fun trailing => ?_
  split
  · exact .fail _
  · have hinterfaceLt := interfaceCount.toNat_lt
    have hfieldLt := fieldCount.toNat_lt
    have hmethodLt := methodCount.toNat_lt
    refine .pure ⟨table.toList, ?_, ?_⟩
    · exact {
        room := hroom
        short := hshort
        constants := List.cons_subset.mpr ⟨hname, List.append_subset.mpr ⟨hsuper,
          List.append_subset.mpr ⟨hsignature, List.append_subset.mpr
            ⟨fun _ => List.forall_mem_map.mpr hinterfaces _, List.append_subset.mpr
              ⟨flatMap_constants hfields, flatMap_constants fun m hm => (hmethods m hm).1⟩⟩⟩⟩⟩
        interfaces := by dsimp only; omega
        fields := by dsimp only; omega
        methods := by dsimp only; omega
        code := fun m hm => (hmethods m hm).2 }
    · have htexts : (interfaces.map fun _ => 2).sum = 2 * interfaces.length := by
        simp [Nat.mul_comm]
      have hitems : (fields.map fun _ => 8).sum = 8 * fields.length := by
        simp [Nat.mul_comm]
      have hmethods : (methods.map (·.size)).sum = (methods.map MethodDef.size).sum := rfl
      rw [ClassBody.size]
      dsimp only
      omega

end FormatReader

namespace ClassBody

/-- Writing again what was read, from whatever bytes, succeeds. It yields no more bytes, from which
the same class is read, and which are written whenever a class is read from them. -/
theorem encode_decode {bytes : Bytes} {b : ClassBody} (h : decode bytes = .ok b) :
    ∃ again, b.encode = .ok again ∧ decode again = .ok b ∧ again.length ≤ bytes.length ∧
      ∀ c, decode again = .ok c → c.encode = .ok again := by
  have hwell := decode_wellFormed h
  obtain ⟨⟨b', d⟩, hrun, rfl⟩ := Checked.map_eq_ok.mp h
  obtain ⟨n, hn, table, hbacked, rfl⟩ := FormatReader.classBody_spends _ _ _ hrun
  obtain ⟨again, hagain, hlength⟩ := encode_of_backed hbacked
  have hread := (decode_of_encode hagain).1 hwell
  refine ⟨again, hagain, hread, ?_, fun c hc => ?_⟩
  · have hbytes : bytes.length = _ := hn
    omega
  · cases hread.symm.trans hc
    exact hagain

def flagged : ClassBody where
  name := "A"
  kind := .entity
  methods := [⟨"m", "()V", 0, 1, [.pushBool true, .pop, .returnVoid]⟩]

/-- Bytes of the class that are never written: the pool has an unused number in front and the name
twice, and the boolean is a seven. -/
def flaggedBytes : Bytes :=
  magic ++ [0, 1,
    0, 5, 3, 0, 0, 0, 5, 1, 0, 3, 0x28, 0x29, 0x56, 1, 0, 1, 0x41, 1, 0, 1, 0x41, 1, 0, 1, 0x6D,
    0, 4, 0, 0, 1, 0, 0, 0, 0, 0, 0, 0, 0,
    0, 1, 0, 5, 0, 2, 0, 0, 0, 1, 0, 0, 0, 4, 0x05, 7, 0x03, 0x52]

theorem encode_decode_flagged :
    decode flaggedBytes = .ok flagged ∧
      ∃ again, flagged.encode = .ok again ∧ decode again = .ok flagged ∧
        again.length ≤ flaggedBytes.length ∧
        ∀ c, decode again = .ok c → c.encode = .ok again := by
  have hread : decode flaggedBytes = .ok flagged := by decide +kernel
  exact ⟨hread, encode_decode hread⟩

end ClassBody

end EntityForge
