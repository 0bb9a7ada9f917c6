import EntityForge.Proofs.Bytes.Ranges
import EntityForge.Proofs.Class.Canonical

/-!
Errors of reading are honest about where they happened. Reading a class can be followed step by step
through its bytes, and however it fails, the offset of the failure counts from the first of them,
inside the code of a method too: where bytes are missing, more were wanted there than the range had
left, and where a byte is wrong, it stands there. Other errors name no offset. The rules follow the
ways in which readers are put together, and the parts of a class are read by them.
-/

namespace EntityForge

namespace FormatError

/-- The byte that an error is about, and the offset at which it should stand. -/
def blamed? : FormatError → Option (UInt8 × Nat)
  | badConstantTag b offset | badOpcode b offset | badPrimitive b offset | badBound b offset
  | badIntrinsic b offset => some (b, offset)
  | _ => none

def offset? : FormatError → Option Nat
  | unexpectedEof offset => some offset
  | e => e.blamed?.map (·.2)

theorem offset?_of_blamed {e : FormatError} {b : UInt8} {offset : Nat}
    (h : e.blamed? = some (b, offset)) : e.offset? = some offset := by
  cases e <;> cases h <;> rfl

end FormatError

inductive Reader.Failure.Honest (bytes : Bytes) : Reader.Failure FormatError → Prop where
  | unplaced {e : FormatError} (h : e.offset? = none) : Honest bytes (.check e)
  | blamed {e : FormatError} {b : UInt8} {offset : Nat} (h : e.blamed? = some (b, offset))
    (hbyte : bytes[offset]? = some b) : Honest bytes (.check e)
  | missing {pos wanted stop : Nat} (hpos : pos ≤ stop) (hstop : stop ≤ bytes.length)
    (hwanted : stop < pos + wanted) :
    Honest bytes (.missing (.unexpectedEof pos) pos wanted stop)
  | unplaced_missing {e : FormatError} (h : e.offset? = none) (pos wanted stop : Nat) :
    Honest bytes (.missing e pos wanted stop)

namespace Reader.Failure.Honest

variable {bytes : Bytes} {failure : Reader.Failure FormatError} {offset : Nat}

theorem of_eof (h : failure.Honest bytes) (he : failure.error = .unexpectedEof offset) :
    ∃ wanted stop, failure = .missing (.unexpectedEof offset) offset wanted stop ∧ offset ≤ stop ∧
      stop ≤ bytes.length ∧ stop < offset + wanted := by
  cases h with
  | unplaced h =>
    subst he
    cases h
  | blamed h =>
    subst he
    cases h
  | missing hpos hstop hwanted =>
    cases he
    exact ⟨_, _, rfl, hpos, hstop, hwanted⟩
  | unplaced_missing h =>
    subst he
    cases h

theorem of_blamed {b : UInt8} (h : failure.Honest bytes)
    (he : failure.error.blamed? = some (b, offset)) : bytes[offset]? = some b := by
  cases h with
  | unplaced h => cases h.symm.trans (FormatError.offset?_of_blamed he)
  | blamed h hbyte =>
    cases h.symm.trans he
    exact hbyte
  | missing => cases he
  | unplaced_missing h => cases h.symm.trans (FormatError.offset?_of_blamed he)

end Reader.Failure.Honest

/-! Checks name no offset. -/

/-- The failure of a check, if it fails, names no offset. -/
def Unplaced {α : Type} (x : Except FormatError α) : Prop := ∀ e, x = .error e → e.offset? = none

namespace Unplaced

variable {α β : Type}

theorem ok (a : α) : Unplaced (.ok a) := fun _ h => nomatch h

theorem error {e : FormatError} (h : e.offset? = none) : Unplaced (.error e : Except _ α) := by
  rintro _ ⟨⟩
  exact h

theorem bind {x : Except FormatError α} {f : α → Except FormatError β} (hx : Unplaced x)
    (hf : ∀ a, Unplaced (f a)) : Unplaced (x >>= f) := by
  cases x with
  | ok a => exact hf a
  | error e => exact error (hx e rfl)

theorem forM {f : α → Except FormatError Unit} (h : ∀ a, Unplaced (f a)) (items : List α) :
    Unplaced (items.forM f) := by
  induction items with
  | nil => exact ok ()
  | cons a items ih => exact (h a).bind fun _ => ih

theorem get (table : ConstantTable) (index : UInt16) : Unplaced (table.get index) := by
  unfold ConstantTable.get
  split
  · exact error rfl
  · split
    · exact ok _
    · exact error rfl

theorem utf8At (table : ConstantTable) (index : UInt16) : Unplaced (table.utf8At index) := by
  unfold ConstantTable.utf8At
  split
  · next e hget => exact error (get table index e hget)
  · exact ok _
  · exact error rfl

theorem optionalUtf8At (table : ConstantTable) (index : UInt16) :
    Unplaced (table.optionalUtf8At index) := by
  have htext := utf8At table index
  unfold ConstantTable.optionalUtf8At
  split
  · exact ok none
  · cases htable : table.utf8At index with
    | ok s => exact ok (some s)
    | error e => exact error (htext e htable)

theorem checkType (descriptor : String) : Unplaced (EntityForge.checkType descriptor) := by
  unfold EntityForge.checkType
  cases Signature.parseType descriptor with
  | ok t => exact ok t
  | error e => exact error rfl

theorem checkMethodType (descriptor : String) :
    Unplaced (EntityForge.checkMethodType descriptor) := by
  unfold EntityForge.checkMethodType
  cases MethodType.parse descriptor with
  | ok type => exact ok type
  | error e => exact error rfl

theorem refuseIf {e : FormatError} (h : e.offset? = none) (c : Prop) [Decidable c] :
    Unplaced (if c then .error e else .ok ()) := by
  by_cases hc : c
  · rw [if_pos hc]
    exact error h
  · rw [if_neg hc]
    exact ok ()

theorem checkInstruction (m : MethodDef) (type : MethodType) (i : Instruction) :
    Unplaced (m.checkInstruction type i) := by
  unfold MethodDef.checkInstruction
  cases i with
  | load index => exact refuseIf rfl _
  | returnValue => exact refuseIf rfl _
  | returnVoid => exact refuseIf rfl _
  | _ => exact ok ()

theorem validate (m : MethodDef) : Unplaced m.validate := by
  refine (checkMethodType m.descriptor).bind fun type => ?_
  dsimp only
  split
  · exact error rfl
  · split
    · exact error rfl
    · exact forM (checkInstruction m type) m.code

end Unplaced

namespace FormatReader

variable {α β : Type} {bytes : Bytes}

/-- A reader can be followed wherever it reads, and it fails honestly if it does. -/
def Accounted (bytes : Bytes) (r : FormatReader α) : Prop :=
  ∀ pos stop, pos ≤ stop → stop ≤ bytes.length →
    ∃ out, r.Reads bytes pos stop out ∧ ∀ failure, out = .error failure → failure.Honest bytes

namespace Accounted

variable {r : FormatReader α}

theorem pure (a : α) : Accounted bytes (Pure.pure a : FormatReader α) :=
  fun pos stop _ _ => ⟨_, .pure a pos stop, nofun⟩

theorem fail {e : FormatError} (h : Reader.Failure.Honest bytes (.check e)) :
    Accounted bytes (Reader.fail e : FormatReader α) := by
  intro pos stop _ _
  refine ⟨_, .fail e pos stop, ?_⟩
  rintro _ ⟨⟩
  exact h

theorem offset : Accounted bytes (Reader.offset : FormatReader Nat) :=
  fun pos stop _ _ => ⟨_, .offset pos stop, nofun⟩

theorem remaining : Accounted bytes (Reader.remaining : FormatReader Nat) :=
  fun pos stop _ _ => ⟨_, .remaining pos stop, nofun⟩

/-- What is read second is followed from where the first part ended. -/
theorem bind {f : α → FormatReader β} (hr : Accounted bytes r) (hf : ∀ a, Accounted bytes (f a)) :
    Accounted bytes (r >>= f) := by
  intro pos stop hpos hstop
  obtain ⟨out, hreads, hhonest⟩ := hr pos stop hpos hstop
  cases out with
  | error failure =>
    refine ⟨_, .bind_error f hreads, ?_⟩
    rintro _ ⟨⟩
    exact hhonest failure rfl
  | ok p =>
    obtain ⟨a, middle⟩ := p
    obtain ⟨_, hlast⟩ := hreads.bounds hpos a middle rfl
    obtain ⟨out, hnext, hhonest⟩ := hf a middle stop hlast hstop
    exact ⟨out, .bind hreads hnext, hhonest⟩

/-- The last part of a value only puts together what was read. -/
theorem map (f : α → β) (hr : Accounted bytes r) :
    Accounted bytes (r >>= fun a => Pure.pure (f a)) :=
  hr.bind fun a => pure (f a)

theorem ofExcept {x : Except FormatError α} (h : Unplaced x) :
    Accounted bytes (Reader.ofExcept x) := by
  cases x with
  | ok a => exact pure a
  | error e => exact fail (.unplaced (h e rfl))

/-- Bytes are taken from where they stand, or the range has too few of them. -/
theorem request {eof : Nat → FormatError} {n : Nat}
    (heof : ∀ pos stop, pos ≤ stop → stop ≤ bytes.length → stop < pos + n →
      Reader.Failure.Honest bytes (.missing (eof pos) pos n stop)) :
    Accounted bytes (Reader.take eof n) := by
  intro pos stop hpos hstop
  by_cases hn : pos + n ≤ stop
  · exact ⟨_, .take eof hn hstop, nofun⟩
  · have hshort := Nat.lt_of_not_le hn
    refine ⟨_, .short eof hpos hstop hshort, ?_⟩
    rintro _ ⟨⟩
    exact heof pos stop hpos hstop hshort

theorem take (n : Nat) : Accounted bytes (FormatReader.take n) :=
  request fun _ _ => .missing

theorem byte : Accounted bytes FormatReader.byte := (take 1).map _

theorem byte_reads {pos stop : Nat} {b : UInt8} (hpos : pos < stop) (hstop : stop ≤ bytes.length)
    (hb : bytes[pos]? = some b) : FormatReader.byte.Reads bytes pos stop (.ok (b, pos + 1)) := by
  have hbytes : (bytes.drop pos).take 1 = [b] := by
    obtain ⟨hlt, rfl⟩ := List.getElem?_eq_some_iff.mp hb
    rw [List.drop_eq_getElem_cons hlt]
    rfl
  have hvalue : UInt8.ofNat (BigEndian.value [b]) = b := by
    rw [BigEndian.value_singleton, UInt8.ofNat_toNat]
  have htake : (FormatReader.take 1).Reads bytes pos stop (.ok ([b], pos + 1)) := by
    rw [← hbytes]
    exact .take FormatError.unexpectedEof hpos hstop
  have hread : (Pure.pure (UInt8.ofNat (BigEndian.value [b])) : FormatReader UInt8).Reads bytes
      (pos + 1) stop (.ok (b, pos + 1)) := by
    rw [hvalue]
    exact .pure b (pos + 1) stop
  exact .bind htake hread

/-- A byte that was read may be blamed from then on. -/
theorem tagged {f : Nat → UInt8 → FormatReader α}
    (hf : ∀ offset b, bytes[offset]? = some b → Accounted bytes (f offset b)) :
    Accounted bytes (Reader.offset >>= fun offset => FormatReader.byte >>= f offset) := by
  intro pos stop hpos hstop
  by_cases hlt : pos < stop
  · have hb : bytes[pos]? = some bytes[pos] := List.getElem?_eq_getElem (by omega)
    obtain ⟨out, hreads, hhonest⟩ := hf pos _ hb (pos + 1) stop hlt hstop
    exact ⟨out, .bind (.offset pos stop) (.bind (byte_reads hlt hstop hb) hreads), hhonest⟩
  · have hshort : stop < pos + 1 := by omega
    have hbyte : FormatReader.byte.Reads bytes pos stop
        (.error (.missing (.unexpectedEof pos) pos 1 stop)) :=
      .bind_error _ (.short FormatError.unexpectedEof hpos hstop hshort)
    refine ⟨_, .bind (.offset pos stop) (.bind_error _ hbyte), ?_⟩
    rintro _ ⟨⟩
    exact .missing hpos hstop hshort

private theorem timesFrom (h : Accounted bytes r) (done : List α) (n : Nat) :
    Accounted bytes (Reader.timesFrom r done n) := by
  induction n generalizing done with
  | zero => exact pure done.reverse
  | succ n ih => exact h.bind fun a => ih (a :: done)

theorem times (h : Accounted bytes r) (n : Nat) : Accounted bytes (Reader.times r n) :=
  timesFrom h [] n

variable {step : Nat → UInt8 → FormatReader α}

/-- Every round takes the byte that it begins with, so that the rounds come to an end. -/
theorem toEnd (hstep : ∀ offset b, bytes[offset]? = some b → Accounted bytes (step offset b)) :
    Accounted bytes (Reader.toEnd step) := by
  intro pos stop hpos hstop
  induction hleft : stop - pos using Nat.strongRecOn generalizing pos with
  | ind left ih =>
    by_cases hlt : pos < stop
    · have hb : bytes[pos]? = some bytes[pos] := List.getElem?_eq_getElem (by omega)
      obtain ⟨out, hreads, hhonest⟩ := hstep pos _ hb (pos + 1) stop hlt hstop
      cases out with
      | error failure =>
        refine ⟨_, .more hlt hstop hb (.bind_error _ hreads), ?_⟩
        rintro _ ⟨⟩
        exact hhonest failure rfl
      | ok p =>
        obtain ⟨a, middle⟩ := p
        obtain ⟨hfirst, hlast⟩ := hreads.bounds hlt a middle rfl
        obtain ⟨out, hrest, hhonest⟩ := ih (stop - middle) (by omega) middle hlast rfl
        cases out with
        | error failure =>
          refine ⟨_, .more hlt hstop hb (.bind hreads (.bind_error _ hrest)), ?_⟩
          rintro _ ⟨⟩
          exact hhonest failure rfl
        | ok p =>
          obtain ⟨items, last⟩ := p
          exact ⟨_, .more hlt hstop hb (.bind hreads (.bind hrest (.pure _ last stop))), nofun⟩
    · have heq : pos = stop := by omega
      subst heq
      exact ⟨_, .last step pos, nofun⟩

/-- A block is cut out first, and read from its own bytes at their offset. Each of its parts may
blame the byte that it begins with. -/
theorem block (hstep : ∀ offset b, bytes[offset]? = some b → Accounted bytes (step offset b))
    (length : Nat) : Accounted bytes (Reader.block .unexpectedEof length step) := by
  intro pos stop hpos hstop
  by_cases hlength : pos + length ≤ stop
  · obtain ⟨out, hreads, hhonest⟩ :=
      toEnd hstep pos (pos + length) (Nat.le_add_right pos length) (Nat.le_trans hlength hstop)
    refine ⟨_, .block _ hlength hstop hreads, ?_⟩
    intro failure hfailure
    cases out with
    | ok p => cases hfailure
    | error failure' =>
      cases hfailure
      exact hhonest failure rfl
  · have hshort := Nat.lt_of_not_le hlength
    refine ⟨_, .bind (.offset pos stop) (.bind_error _ (.short _ hpos hstop hshort)), ?_⟩
    rintro _ ⟨⟩
    exact .missing hpos hstop hshort

theorem block_bind (hstep : ∀ offset b, bytes[offset]? = some b → Accounted bytes (step offset b))
    (length : Nat) {f : List α → FormatReader β} (hf : ∀ items, Accounted bytes (f items)) :
    Accounted bytes (Reader.offset >>= fun offset => FormatReader.take length >>= fun block =>
      Reader.ofExcept (Reader.untilEnd step ⟨block, offset⟩) >>= f) := by
  have hblock := (block hstep length).bind hf
  rwa [Reader.block_bind] at hblock

end Accounted

/-! The parts of a class. -/

theorem word16_accounted : Accounted bytes word16 := (Accounted.take 2).map _

theorem word32_accounted : Accounted bytes word32 := (Accounted.take 4).map _

theorem word64_accounted : Accounted bytes word64 := (Accounted.take 8).map _

theorem poolEntry_accounted (index : Nat) : Accounted bytes (poolEntry index) := by
  refine .tagged fun offset tag htag => ?_
  split
  · refine word16_accounted.bind fun length => (Accounted.take length.toNat).bind fun text => ?_
    split
    · exact .pure _
    · exact .fail (.unplaced rfl)
  · exact word32_accounted.map _
  · exact word32_accounted.map _
  · exact word64_accounted.map _
  · exact word64_accounted.map _
  · exact .fail (.blamed rfl htag)

theorem poolEntries_accounted (table : ConstantTable) (n : Nat) :
    Accounted bytes (poolEntries table n) := by
  induction n generalizing table with
  | zero => exact .pure table
  | succ n ih => exact (poolEntry_accounted _).bind fun c => ih (table.push c)

theorem pool_accounted : Accounted bytes pool :=
  word16_accounted.bind fun count => poolEntries_accounted #[] count.toNat

variable (table : ConstantTable)

theorem text_accounted : Accounted bytes (text table) :=
  word16_accounted.bind fun _ => .ofExcept (.utf8At table _)

theorem optionalText_accounted : Accounted bytes (optionalText table) :=
  word16_accounted.bind fun _ => .ofExcept (.optionalUtf8At table _)

theorem constant_accounted : Accounted bytes (constant table) :=
  word16_accounted.bind fun _ => .ofExcept (.get table _)

theorem optionalConstant_accounted : Accounted bytes (optionalConstant table) := by
  refine word16_accounted.bind fun index => ?_
  split
  · exact .pure none
  · exact (Accounted.ofExcept (.get table index)).map some

theorem methodDescriptor_accounted : Accounted bytes (methodDescriptor table) :=
  (text_accounted table).bind fun _ => (Accounted.ofExcept (.checkMethodType _)).bind fun _ => .pure _

theorem castTarget_accounted : Accounted bytes (castTarget table) := by
  refine (text_accounted table).bind fun target => ?_
  split
  · exact (Accounted.ofExcept (.checkType target)).bind fun _ => .pure target
  · exact .pure target

/-- A byte that stands for nothing is blamed at its own offset. -/
theorem coded_accounted {ofByte? : UInt8 → Option α} {bad : UInt8 → Nat → FormatError}
    (hbad : ∀ b offset, (bad b offset).blamed? = some (b, offset)) :
    Accounted bytes (coded ofByte? bad) := by
  refine .tagged fun offset b hb => ?_
  split
  · exact .pure _
  · exact .fail (.blamed (hbad b offset) hb)

theorem primitive_accounted : Accounted bytes primitive := coded_accounted fun _ _ => rfl

theorem bool_accounted : Accounted bytes bool := Accounted.byte.map _

theorem instruction_accounted (offset : Nat) (opcode : UInt8) (h : bytes[offset]? = some opcode) :
    Accounted bytes (instruction table offset opcode) := by
  have htext : Accounted bytes (text table) := text_accounted table
  have hdescriptor : Accounted bytes (methodDescriptor table) := methodDescriptor_accounted table
  have hpair (f : String → String → Instruction) : Accounted bytes (do
      return f (← text table) (← text table)) :=
    htext.bind fun _ => htext.map _
  unfold instruction
  split
  · exact .pure _
  · exact Accounted.byte.map _
  · exact .pure _
  · exact .pure _
  · exact .pure _
  · exact bool_accounted.map _
  · exact (constant_accounted table).map _
  · exact hpair _
  · exact hpair _
  · exact htext.bind fun _ => htext.bind fun _ => hdescriptor.map _
  · exact htext.bind fun _ => hdescriptor.map _
  · exact (castTarget_accounted table).map _
  · exact primitive_accounted.map _
  · exact primitive_accounted.map _
  · exact (coded_accounted fun _ _ => rfl).bind fun _ => htext.bind fun _ =>
      (coded_accounted fun _ _ => rfl).bind fun _ => Accounted.byte.bind fun _ => Accounted.byte.map _
  · exact word16_accounted.map _
  · exact hpair _
  · exact htext.map _
  · exact htext.map _
  · exact .pure _
  · exact hpair _
  · exact htext.bind fun _ => htext.bind fun _ => hdescriptor.bind fun _ => bool_accounted.map _
  · exact .pure _
  · exact hpair _
  · exact (coded_accounted fun _ _ => rfl).map _
  · exact htext.map _
  · exact .pure _
  · exact .pure _
  · exact .fail (.blamed rfl h)

theorem field_accounted : Accounted bytes (field table) :=
  (text_accounted table).bind fun _ => (text_accounted table).bind fun _ =>
    word16_accounted.bind fun _ => (optionalConstant_accounted table).bind fun _ =>
      (Accounted.ofExcept (.checkType _)).bind fun _ => .pure _

/-- The code of a method is read with offsets of the class. -/
theorem method_accounted : Accounted bytes (method table) :=
  (text_accounted table).bind fun _ => (text_accounted table).bind fun _ =>
    word16_accounted.bind fun _ => word16_accounted.bind fun _ => word32_accounted.bind fun length =>
      .block_bind (instruction_accounted table) length.toNat fun _ =>
        (Accounted.ofExcept (.validate _)).bind fun _ => .pure _

theorem head_accounted : Accounted bytes head := by
  refine (Accounted.request fun pos stop _ _ _ => .unplaced_missing rfl pos _ stop).bind fun found => ?_
  split
  · exact .fail (.unplaced rfl)
  · refine word16_accounted.bind fun version => ?_
    split
    · exact .fail (.unplaced rfl)
    · exact .pure ()

theorem classBody_accounted : Accounted bytes classBody := by
  refine head_accounted.bind fun _ => pool_accounted.bind fun table =>
    (text_accounted table).bind fun name => Accounted.byte.bind fun tag =>
    (Accounted.ofExcept ?kind).bind fun kind => word16_accounted.bind fun flags =>
    (optionalText_accounted table).bind fun superName =>
    (optionalText_accounted table).bind fun signature => word16_accounted.bind fun interfaceCount =>
    ((text_accounted table).times _).bind fun interfaces => word16_accounted.bind fun fieldCount =>
    ((field_accounted table).times _).bind fun fields => word16_accounted.bind fun methodCount =>
    ((method_accounted table).times _).bind fun methods => Accounted.remaining.bind fun trailing => ?atEnd
  case kind =>
    split
    · exact .ok _
    · exact .error rfl
  case atEnd =>
    split
    · exact .fail (.unplaced rfl)
    · exact .pure _

end FormatReader

namespace ClassBody

open FormatReader (classBody classBody_accounted)

/-- Reading a class can be followed step by step through the given bytes, whatever they are, without
a step outside of them or of the block that is being read, and it ends with a class or an error. If
it ends for missing bytes, more of them were wanted at the offset of the error than there were up to
the end of the range, which is in the bytes. If it ends for a byte, that byte stands at the offset
of the error. -/
theorem decode_honest (bytes : Bytes) : ∃ out,
    classBody.Reads bytes 0 bytes.length out ∧
    decode bytes = (out.map Prod.fst).mapError Reader.Failure.error ∧
    ∀ e, decode bytes = .error e →
      (∀ offset, e = .unexpectedEof offset → offset ≤ bytes.length ∧ ∃ wanted stop,
        out = .error (.missing e offset wanted stop) ∧ offset ≤ stop ∧ stop ≤ bytes.length ∧
          stop < offset + wanted) ∧
      ∀ b offset, e.blamed? = some (b, offset) →
        offset < bytes.length ∧ bytes[offset]? = some b := by
  obtain ⟨out, hreads, hhonest⟩ :=
    classBody_accounted 0 bytes.length (Nat.zero_le _) (Nat.le_refl _)
  have hrange : Cursor.between bytes 0 bytes.length = ⟨bytes, 0⟩ := by
    rw [Cursor.between, List.drop_zero, Nat.sub_zero, List.take_length]
  have hanswer := hreads.sound (Nat.zero_le _) (Nat.le_refl _)
  rw [hrange] at hanswer
  have hdecode : decode bytes = (out.map Prod.fst).mapError Reader.Failure.error := by
    rw [decode, hanswer]
    cases out <;> rfl
  refine ⟨out, hreads, hdecode, fun e he => ?_⟩
  obtain ⟨failure, rfl, rfl⟩ : ∃ failure, out = .error failure ∧ failure.error = e := by
    cases out with
    | ok p => cases hdecode.symm.trans he
    | error failure => exact ⟨failure, rfl, Except.error.inj (hdecode.symm.trans he)⟩
  constructor
  · intro offset heof
    obtain ⟨wanted, stop, rfl, hpos, hstop, hwanted⟩ := (hhonest failure rfl).of_eof heof
    exact ⟨Nat.le_trans hpos hstop, wanted, stop, rfl, hpos, hstop, hwanted⟩
  · intro b offset hblamed
    have hstands := (hhonest failure rfl).of_blamed hblamed
    exact ⟨(List.getElem?_eq_some_iff.mp hstands).1, hstands⟩

/-- A code block that ends inside an instruction, with bytes of the class behind it, and one with an
opcode that stands for nothing. -/
theorem decode_honest_flagged :
    let cut := flaggedBytes.set 57 1
    let spoiled := flaggedBytes.set 60 0x77
    (decode cut = .error (.unexpectedEof 59) ∧ cut.length = 62 ∧ ∃ wanted stop,
      classBody.Reads cut 0 62 (.error (.missing (.unexpectedEof 59) 59 wanted stop)) ∧
      59 ≤ stop ∧ stop ≤ cut.length ∧ stop < 59 + wanted) ∧
    decode spoiled = .error (.badOpcode 0x77 60) ∧ 60 < spoiled.length ∧
      spoiled[60]? = some 0x77 := by
  intro cut spoiled
  have hcut : decode cut = .error (.unexpectedEof 59) := by decide +kernel
  have hspoiled : decode spoiled = .error (.badOpcode 0x77 60) := by decide +kernel
  obtain ⟨_, hreads, _, herrors⟩ := decode_honest cut
  obtain ⟨_, wanted, stop, rfl, hrange⟩ := (herrors _ hcut).1 59 rfl
  obtain ⟨_, _, _, herrors⟩ := decode_honest spoiled
  exact ⟨⟨hcut, rfl, wanted, stop, hreads, hrange⟩, hspoiled, (herrors _ hspoiled).2 0x77 60 rfl⟩

end ClassBody

end EntityForge
