import EntityForge.Proofs.Checked
import EntityForge.Proofs.Class.Limits
import EntityForge.Proofs.Class.Pool
import EntityForge.Proofs.Class.WellFormed

/-!
The parts of a class body, each read back as it was written: bytes and words, the pool, names and
literals by their index, and bytes that stand for something.
-/

namespace EntityForge

namespace FormatReader

open Reader (Recovers)

/-! Bytes and words. -/

theorem take_recovers (bytes : Bytes) : (take bytes.length).Recovers bytes bytes True :=
  Recovers.take _ bytes

theorem byte_recovers (b : UInt8) : byte.Recovers [b] b True := by
  refine ((take_recovers [b]).map fun bytes => UInt8.ofNat (BigEndian.value bytes)).congr rfl ?_
    Iff.rfl
  rw [BigEndian.value_singleton, UInt8.ofNat_toNat]

theorem word16_recovers (w : UInt16) : word16.Recovers (BigEndian.word16 w) w True := by
  refine ((take_recovers (BigEndian.word16 w)).map
    fun bytes => UInt16.ofNat (BigEndian.value bytes)).congr rfl ?_ Iff.rfl
  rw [BigEndian.value_word16, UInt16.ofNat_toNat]

theorem word32_recovers (w : UInt32) : word32.Recovers (BigEndian.word32 w) w True := by
  refine ((take_recovers (BigEndian.word32 w)).map
    fun bytes => UInt32.ofNat (BigEndian.value bytes)).congr rfl ?_ Iff.rfl
  rw [BigEndian.value_word32, UInt32.ofNat_toNat]

theorem word64_recovers (w : UInt64) : word64.Recovers (BigEndian.word64 w) w True := by
  refine ((take_recovers (BigEndian.word64 w)).map
    fun bytes => UInt64.ofNat (BigEndian.value bytes)).congr rfl ?_ Iff.rfl
  rw [BigEndian.value_word64, UInt64.ofNat_toNat]

/-! The pool. -/

/-- An entry that could be written is read back under any index. -/
theorem poolEntry_recovers (index : Nat) {c : Constant} {bytes : Bytes}
    (h : ConstantPool.entryBytes c = .ok bytes) : (poolEntry index).Recovers bytes c True := by
  refine Recovers.offset fun n => ?_
  cases c with
  | text s =>
    simp only [ConstantPool.entryBytes] at h
    split at h
    · next hsize =>
      cases h
      have hlength : (UInt16.ofNat s.utf8ByteSize).toNat = s.toUTF8.toList.length := by
        rw [utf8_length]
        exact UInt16.toNat_ofNat_of_lt' (Nat.lt_succ_of_le hsize)
      have hbytes : (take (UInt16.ofNat s.utf8ByteSize).toNat).Recovers s.toUTF8.toList
          s.toUTF8.toList True := by
        rw [hlength]
        exact take_recovers _
      refine (byte_recovers 1).bind_true ((word16_recovers _).bind_true (hbytes.bind_last ?_))
      rw [fromUTF8?_utf8]
      exact Recovers.pure _
    · cases h
  | int v =>
    cases h
    refine (byte_recovers 3).bind_true (((word32_recovers v.toUInt32).map
      fun w => Constant.int w.toInt32).congr rfl ?_ Iff.rfl)
    simp
  | long v =>
    cases h
    refine (byte_recovers 5).bind_true (((word64_recovers v.toUInt64).map
      fun w => Constant.long w.toInt64).congr rfl ?_ Iff.rfl)
    simp
  | float v =>
    cases h
    exact (byte_recovers 4).bind_true ((word32_recovers v.bits).map fun w => Constant.float ⟨w⟩)
  | double v =>
    cases h
    exact (byte_recovers 6).bind_true ((word64_recovers v.bits).map fun w => Constant.double ⟨w⟩)

theorem poolEntries_recovers {constants : List Constant} {parts : List Bytes}
    (h : List.Forall₂ (fun c bytes => ConstantPool.entryBytes c = .ok bytes) constants parts)
    (table : ConstantTable) :
    (poolEntries table constants.length).Recovers parts.flatten
      (table ++ constants.toArray) True := by
  induction h generalizing table with
  | nil => exact (Recovers.pure table).congr rfl (by simp) Iff.rfl
  | @cons c bytes constants parts hentry _ ih =>
    have htail := ih (table.push c)
    exact ((poolEntry_recovers (table.size + 1) hentry).bind_true htail).congr rfl
      (by simp) Iff.rfl

/-- The entries of a pool are read back from its bytes. -/
theorem pool_recovers {pool : ConstantPool} {bytes : Bytes} (h : pool.toBytes = .ok bytes) :
    FormatReader.pool.Recovers bytes pool.entries True := by
  unfold ConstantPool.toBytes at h
  split at h
  · cases h
  · next hfits =>
    have hsize : pool.entries.size ≤ 65535 := Nat.le_of_not_lt fun hlt => hfits (.inr hlt)
    obtain ⟨parts, hparts, hbytes⟩ := Checked.map_eq_ok.mp h
    have hcount : (UInt16.ofNat pool.entries.size).toNat = pool.entries.toList.length :=
      UInt16.toNat_ofNat_of_lt' (Nat.lt_succ_of_le hsize)
    rw [← hbytes]
    refine (word16_recovers _).bind_true ?_
    rw [hcount]
    exact (poolEntries_recovers (Checked.mapM_eq_ok.mp hparts) #[]).congr rfl (by simp) Iff.rfl

/-! Names and literals by their index. -/

variable {table : ConstantTable} {index : UInt16} {s : String} {c : Constant}

theorem text_recovers (h : table.get index = .ok (.text s)) :
    (text table).Recovers (BigEndian.word16 index) s True :=
  (word16_recovers index).bind_last (Recovers.ofExcept
    (fun _ => ConstantTable.utf8At_of_get h) fun hbad => absurd trivial hbad)

theorem constant_recovers (h : table.get index = .ok c) :
    (constant table).Recovers (BigEndian.word16 index) c True :=
  (word16_recovers index).bind_last (Recovers.ofExcept
    (fun _ => h) fun hbad => absurd trivial hbad)

theorem optionalText_recovers (h : table.get index = .ok (.text s)) :
    (optionalText table).Recovers (BigEndian.word16 index) (some s) True := by
  refine (word16_recovers index).bind_last (Recovers.ofExcept
    (fun _ => ?_) fun hbad => absurd trivial hbad)
  rw [ConstantTable.optionalUtf8At, if_neg (ConstantTable.index_ne_zero h),
    ConstantTable.utf8At_of_get h]
  rfl

theorem optionalText_zero_recovers (table : ConstantTable) :
    (optionalText table).Recovers (BigEndian.word16 0) none True :=
  (word16_recovers 0).bind_last (Recovers.ofExcept
    (fun _ => rfl) fun hbad => absurd trivial hbad)

theorem optionalConstant_recovers (h : table.get index = .ok c) :
    (optionalConstant table).Recovers (BigEndian.word16 index) (some c) True := by
  refine (word16_recovers index).bind_last ?_
  rw [if_neg (ConstantTable.index_ne_zero h), h]
  exact Recovers.pure (some c)

theorem optionalConstant_zero_recovers (table : ConstantTable) :
    (optionalConstant table).Recovers (BigEndian.word16 0) none True :=
  (word16_recovers 0).bind_last (Recovers.pure none)

/-! Bytes that stand for something. -/

theorem ofTag?_classKind (kind : ClassKind) : ClassKind.ofTag? kind.tag = some kind := by
  cases kind <;> rfl

theorem ofTag?_typeKind (kind : TypeKind) : TypeKind.ofTag? kind.tag = some kind := by
  cases kind with
  | primitive p => cases p <;> decide
  | _ => decide

theorem ofTag?_bound (bound : Bound) : Bound.ofTag? bound.tag = some bound := by
  cases bound <;> rfl

theorem ofId?_intrinsic (which : Intrinsic) : Intrinsic.ofId? which.id = some which := by
  cases which <;> rfl

/-- A value that its byte stands for. -/
theorem coded_recovers {α : Type} {ofByte? : UInt8 → Option α} {b : UInt8} {a : α}
    (bad : UInt8 → Nat → FormatError) (h : ofByte? b = some a) :
    (coded ofByte? bad).Recovers [b] a True := by
  refine Recovers.offset fun n => (byte_recovers b).bind_last ?_
  rw [h]
  exact Recovers.pure a

theorem bool_recovers (b : Bool) : bool.Recovers [if b then 1 else 0] b True := by
  refine ((byte_recovers (if b then 1 else 0)).map fun x => decide (x ≠ 0)).congr rfl ?_ Iff.rfl
  cases b <;> rfl

/-- Void has a code but no values. -/
theorem primitive_recovers (p : Primitive) : primitive.Recovers [p.code] p (p ≠ .void) := by
  refine Recovers.offset fun n => (byte_recovers p.code).bind_last ?_
  cases p with
  | void => exact (Recovers.fail _ _).congr rfl rfl (by simp)
  | _ => exact (Recovers.pure _).congr rfl rfl (by simp)

end FormatReader

end EntityForge

/-!
Reading a class back from its bytes. Each part is recovered from its layout if it is well-formed and
refused if it is not, so a class that could be written either comes back unchanged or is an error.
If every instruction is well-formed, nothing can be wrong with the bytes but the descriptor of a
field or what the checks of a method find, and the first of these faults in reading order is the
error; so methods without a fault, put behind the others, change nothing about whether a class is
read and with which error it is not.
-/

namespace EntityForge

open Reader (Recovers RecoversBy)

/-- The literals of a part stand in a table where `ref` says. -/
def ConstantTable.Holds (table : ConstantTable) (ref : Constant → UInt16)
    (constants : List Constant) : Prop :=
  ∀ c ∈ constants, table.get (ref c) = .ok c

namespace ConstantTable.Holds

variable {table : ConstantTable} {ref : Constant → UInt16} {c : Constant}
  {constants more : List Constant}

theorem head (h : table.Holds ref (c :: constants)) : table.get (ref c) = .ok c :=
  h c (by simp)

theorem tail (h : table.Holds ref (c :: constants)) : table.Holds ref constants :=
  fun d hd => h d (by simp [hd])

theorem left (h : table.Holds ref (constants ++ more)) : table.Holds ref constants :=
  fun d hd => h d (by simp [hd])

theorem right (h : table.Holds ref (constants ++ more)) : table.Holds ref more :=
  fun d hd => h d (by simp [hd])

theorem part {α : Type} {parts : α → List Constant} {items : List α}
    (h : table.Holds ref (items.flatMap parts)) {x : α} (hx : x ∈ items) :
    table.Holds ref (parts x) :=
  fun d hd => h d (List.mem_flatMap.mpr ⟨x, hx, hd⟩)

end ConstantTable.Holds

variable {table : ConstantTable} {ref : Constant → UInt16}

namespace FormatReader

theorem methodDescriptor_recovers {index : UInt16} {descriptor : String}
    (h : table.get index = .ok (.text descriptor)) :
    (methodDescriptor table).Recovers (BigEndian.word16 index) descriptor
      (IsMethodDescriptor descriptor) := by
  refine (text_recovers h).bind_last ?_
  by_cases hdescriptor : IsMethodDescriptor descriptor
  · obtain ⟨type, htype⟩ := hdescriptor
    rw [checkMethodType_ok_iff.mpr htype]
    exact (Recovers.pure descriptor).congr rfl rfl (iff_of_true trivial ⟨type, htype⟩)
  · obtain ⟨e, he⟩ := checkMethodType_error hdescriptor
    rw [he]
    exact ⟨fun hok => absurd hok hdescriptor, fun _ _ _ => ⟨e, rfl⟩⟩

theorem castTarget_recovers {index : UInt16} {target : String}
    (h : table.get index = .ok (.text target)) :
    (castTarget table).Recovers (BigEndian.word16 index) target
      (isArrayTarget target = true → IsTypeDescriptor target) := by
  refine (text_recovers h).bind_last ?_
  by_cases harray : isArrayTarget target = true
  · rw [if_pos harray]
    by_cases htarget : IsTypeDescriptor target
    · obtain ⟨type, htype⟩ := checkType_ok htarget
      rw [htype]
      exact (Recovers.pure target).congr rfl rfl (iff_of_true trivial fun _ => htarget)
    · obtain ⟨e, he⟩ := checkType_error htarget
      rw [he]
      exact ⟨fun hok => absurd (hok harray) htarget, fun _ _ _ => ⟨e, rfl⟩⟩
  · rw [if_neg harray]
    exact (Recovers.pure target).congr rfl rfl (iff_of_true trivial fun h => absurd h harray)

/-- An instruction is recovered from its operands. There is one case for each shape of operands. -/
theorem instruction_recovers {i : Instruction} (h : table.Holds ref i.constants) (offset : Nat) :
    (instruction table offset i.opcode).Recovers (i.operandLayout ref) i i.WellFormed := by
  cases i with
  | nop | dup | pop | pushNull | annotationEnd | handleGet | returnValue | returnVoid =>
    exact Recovers.pure _
  | load index => exact (byte_recovers index).bind_true (Recovers.pure _)
  | pushBool b => exact (bool_recovers b).bind_true (Recovers.pure _)
  | loadConstant c => exact (constant_recovers h.head).bind_true (Recovers.pure _)
  | getField className name | putField className name | resolveField className name
  | newEnum className name | handleSet className name =>
    exact (text_recovers h.head).bind_true
      ((text_recovers h.tail.head).bind_true (Recovers.pure _))
  | annotationBegin s | annotationSet s | throw s =>
    exact (text_recovers h.head).bind_true (Recovers.pure _)
  | invoke className name descriptor =>
    exact (text_recovers h.head).bind_true ((text_recovers h.tail.head).bind_true
      ((methodDescriptor_recovers h.tail.tail.head).bind_rest (Recovers.pure _)))
  | new className descriptor =>
    exact (text_recovers h.head).bind_true
      ((methodDescriptor_recovers h.tail.head).bind_rest (Recovers.pure _))
  | resolveMethod className name descriptor required =>
    exact (text_recovers h.head).bind_true ((text_recovers h.tail.head).bind_true
      ((methodDescriptor_recovers h.tail.tail.head).bind_rest
        ((bool_recovers required).bind_true (Recovers.pure _))))
  | checkCast target => exact (castTarget_recovers h.head).bind_rest (Recovers.pure _)
  | box p | unbox p => exact (primitive_recovers p).bind_rest (Recovers.pure _)
  | newType kind raw bound dims argc =>
    exact (coded_recovers _ (ofTag?_typeKind kind)).bind_true ((text_recovers h.head).bind_true
      ((coded_recovers _ (ofTag?_bound bound)).bind_true ((byte_recovers dims).bind_true
        ((byte_recovers argc).bind_true (Recovers.pure _)))))
  | newList n => exact (word16_recovers n).bind_true (Recovers.pure _)
  | intrinsic which =>
    exact (coded_recovers _ (ofId?_intrinsic which)).bind_true (Recovers.pure _)

/-- Code is recovered from a byte string of its own. -/
theorem code_recovers {code : List Instruction}
    (h : table.Holds ref (code.flatMap Instruction.constants)) (offset : Nat) :
    (Reader.ofExcept (Reader.untilEnd (instruction table) ⟨codeLayout ref code, offset⟩)).Recovers
      [] code (∀ i ∈ code, i.WellFormed) :=
  Recovers.untilEnd offset fun _ hi n => instruction_recovers (h.part hi) n

/-- The initializer of a field is recovered from its index, or from zero. -/
theorem initial_recovers {f : FieldDef} (h : table.Holds ref f.constants) :
    (optionalConstant table).Recovers (BigEndian.word16 (f.initial.elim 0 ref)) f.initial True := by
  have hconstants := h.tail.tail
  cases hf : f.initial with
  | none => exact optionalConstant_zero_recovers table
  | some c =>
    rw [hf] at hconstants
    exact optionalConstant_recovers hconstants.head

theorem field_recovers {f : FieldDef} (h : table.Holds ref f.constants) :
    (field table).Recovers (ClassImage.fieldBytes (f.imageBy ref)) f
      (IsTypeDescriptor f.descriptor) := by
  refine ((text_recovers h.head).bind_true ((text_recovers h.tail.head).bind_true
    ((word16_recovers f.flags).bind_true ((initial_recovers h).bind_last ?_)))).congr
      (by simp [ClassImage.fieldBytes, FieldDef.imageBy]) rfl Iff.rfl
  by_cases hdescriptor : IsTypeDescriptor f.descriptor
  · obtain ⟨type, htype⟩ := checkType_ok hdescriptor
    rw [htype]
    exact (Recovers.pure f).congr rfl rfl (iff_of_true trivial hdescriptor)
  · obtain ⟨e, he⟩ := checkType_error hdescriptor
    rw [he]
    exact ⟨fun hok => absurd hok hdescriptor, fun _ _ _ => ⟨e, rfl⟩⟩

/-- The bytes of code that can be counted are taken by their count. -/
theorem codeBytes_recovers {code : List Instruction}
    (hlength : (codeLayout ref code).length < 2 ^ 32) :
    (take (UInt32.ofNat (codeLayout ref code).length).toNat).Recovers (codeLayout ref code)
      (codeLayout ref code) True := by
  rw [UInt32.toNat_ofNat_of_lt' hlength]
  exact take_recovers _

/-- A method whose code can be counted is recovered, or refused by one of its checks. -/
theorem method_recovers {m : MethodDef} (h : table.Holds ref m.constants)
    (hlength : (codeLayout ref m.code).length < 2 ^ 32) :
    (method table).Recovers (m.imageBy ref).layout m m.WellFormed := by
  have hvalid : (Reader.ofExcept m.validate).Recovers [] ()
      (∃ type, MethodType.parse m.descriptor = .ok type ∧ m.Fits type) :=
    Recovers.ofExcept MethodDef.validate_ok_iff.mpr MethodDef.validate_error
  refine ((text_recovers h.head).bind_true ((text_recovers h.tail.head).bind_true
    ((word16_recovers m.flags).bind_true ((word16_recovers m.maxLocals).bind_true
      ((word32_recovers _).bind_true (Recovers.offset fun offset =>
        (codeBytes_recovers hlength).bind_true
        ((code_recovers h.tail.tail offset).bind
          (hvalid.bind_rest (Recovers.pure m))))))))).congr ?_ rfl ?_
  · simp [MethodImage.layout, MethodDef.imageBy]
  · constructor
    · rintro ⟨hcode, hfits⟩
      exact ⟨hcode, hfits⟩
    · exact fun hm => ⟨hm.instructions, hm.fits⟩

theorem head_recovers :
    head.Recovers (magic ++ BigEndian.word16 formatVersion) () True := by
  refine (Recovers.take _ magic).bind_true ?_
  exact (word16_recovers formatVersion).bind_last (Recovers.pure ())

theorem optionalName_recovers {name? : Option String}
    (h : table.Holds ref (name?.toList.map .text)) :
    (optionalText table).Recovers (BigEndian.word16 (name?.elim 0 fun s => ref (.text s)))
      name? True := by
  cases name? with
  | none => exact optionalText_zero_recovers table
  | some name => exact optionalText_recovers h.head

/-- A table of parts is recovered with its count. -/
theorem table_recovers {α : Type} {r : FormatReader α} {encode : α → Bytes} {admits : α → Prop}
    {items : List α} (hcount : items.length ≤ 65535)
    (h : ∀ x ∈ items, r.Recovers (encode x) x (admits x)) :
    (Reader.times r (UInt16.ofNat items.length).toNat).Recovers (items.flatMap encode) items
      (∀ x ∈ items, admits x) :=
  Recovers.times (UInt16.toNat_ofNat_of_lt' (Nat.lt_succ_of_le hcount)) h

/-- A class is recovered from all of its bytes. -/
theorem classBody_exhausts {b : ClassBody} {poolBytes : Bytes}
    (hpool : b.pool.toBytes = .ok poolBytes) (hcount : b.Countable) :
    classBody.Exhausts
      (magic ++ (BigEndian.word16 formatVersion ++ (poolBytes ++ b.layout b.pool.reference)))
      b b.WellFormed := by
  have hfits := ConstantPool.overflowed_of_toBytes hpool
  have hholds : b.pool.entries.Holds b.pool.reference b.constants := fun c hc =>
    ConstantPool.internAll_get ConstantPool.sound_empty hfits hc
  have hsuper := hholds.tail.left
  have hsignature := hholds.tail.right.left
  have hinterfaces := hholds.tail.right.right.left
  have hfields := hholds.tail.right.right.right.left
  have hmethods := hholds.tail.right.right.right.right
  have hnames := fun s hs => text_recovers (hinterfaces (.text s) (List.mem_map_of_mem hs))
  have hend : (Reader.remaining >>= fun trailing =>
      if trailing ≠ 0 then Reader.fail (.trailingBytes trailing)
      else Pure.pure b : FormatReader ClassBody).Exhausts [] b True :=
    ⟨fun _ offset => ⟨⟨[], offset⟩, rfl⟩, fun hbad => absurd trivial hbad⟩
  refine Reader.Exhausts.congr (
    head_recovers.bind_true_exhausts <| (pool_recovers hpool).bind_true_exhausts <|
    (text_recovers hholds.head).bind_true_exhausts <|
    (byte_recovers b.kind.tag).bind_true_exhausts <|
    Recovers.bind_true_exhausts (?kind : Recovers _ [] b.kind True) <|
    (word16_recovers b.flags).bind_true_exhausts <|
    (optionalName_recovers hsuper).bind_true_exhausts <|
    (optionalName_recovers hsignature).bind_true_exhausts <|
    (word16_recovers _).bind_true_exhausts <|
    (table_recovers hcount.interfaces hnames).bind_exhausts <|
    (word16_recovers _).bind_true_exhausts <|
    (table_recovers hcount.fields fun f hf => field_recovers (hfields.part hf)).bind_exhausts <|
    (word16_recovers _).bind_true_exhausts <|
    (table_recovers hcount.methods fun m hm =>
      method_recovers (hmethods.part hm) (hcount.code m hm)).bind_exhausts hend) ?bytes ?admits
  case kind =>
    rw [ofTag?_classKind]
    exact Recovers.pure b.kind
  case bytes => simp [ClassBody.layout]
  case admits =>
    constructor
    · rintro ⟨_, hfields, hmethods, _⟩
      exact ⟨hfields, hmethods⟩
    · exact fun hb => ⟨fun _ _ => trivial, hb.fields, hb.methods, trivial⟩

end FormatReader

namespace ClassBody

/-- A class that could be written is read back unchanged if it is well-formed, and is refused
otherwise. -/
theorem decode_of_encode {b : ClassBody} {bytes : Bytes} (h : b.encode = .ok bytes) :
    (b.WellFormed → decode bytes = .ok b) ∧ (¬ b.WellFormed → ∃ e, decode bytes = .error e) := by
  obtain ⟨hcount, poolBytes, hpool, rfl⟩ := encode_ok_iff.mp h
  have hread := FormatReader.classBody_exhausts hpool hcount
  constructor
  · intro hwell
    obtain ⟨d, hd⟩ := hread.ok hwell 0
    rw [decode, hd]
    rfl
  · intro hbad
    obtain ⟨e, he⟩ := hread.error hbad 0
    exact ⟨e, by rw [decode, he]; rfl⟩

/-- Writing loses nothing. A class that could be written is read back, every part equal and
floating-point literals bit for bit, exactly if it is well-formed; any other class is refused. No
class is ever read back as a different one. -/
theorem decode_encode {b : ClassBody} {bytes : Bytes} (h : b.encode = .ok bytes) :
    (decode bytes = .ok b ↔ b.WellFormed) ∧
      (¬ b.WellFormed → ∃ e, decode bytes = .error e) ∧
      ∀ c, decode bytes = .ok c → c = b := by
  obtain ⟨hok, herror⟩ := decode_of_encode h
  have hread : ∀ c, decode bytes = .ok c → b.WellFormed := fun c hc => by
    by_contra hbad
    obtain ⟨e, he⟩ := herror hbad
    rw [he] at hc
    cases hc
  refine ⟨⟨hread b, hok⟩, herror, fun c hc => ?_⟩
  rw [hok (hread c hc)] at hc
  cases hc
  rfl

/-- A class with one field and one method, which checks a cast and boxes a long. -/
def sample : ClassBody where
  name := "app.Sample"
  kind := .accessor
  superName := some "java.lang.Object"
  fields := [⟨"rate", "J", AccessFlag.isPublic, some (.long 7)⟩]
  methods := [⟨"get", "(Lapp/Sample;)Ljava/lang/Object;", AccessFlag.isPublic, 2,
    [.load 1, .checkCast "[J", .pop, .loadConstant (.long 7), .box .long, .returnValue]⟩]

theorem decode_encode_sample :
    ∃ bytes, sample.encode = .ok bytes ∧ decode bytes = .ok sample := by
  obtain ⟨bytes, hbytes⟩ := encode_of_limited (b := sample) (by decide +kernel)
  exact ⟨bytes, hbytes, (decode_encode hbytes).1.mpr (by decide +kernel)⟩

end ClassBody

/-! The checks of a class that is read back. -/

def FieldDef.check (f : FieldDef) : Except FormatError Unit :=
  (checkType f.descriptor).map fun _ => ()

/-- The checks of a class in reading order, those of instructions apart. -/
def ClassBody.check (b : ClassBody) : Except FormatError Unit := do
  b.fields.forM FieldDef.check
  b.methods.forM MethodDef.validate

namespace FormatReader

/-- A field is recovered, or refused with the error of its descriptor. -/
theorem field_checked {f : FieldDef} (h : table.Holds ref f.constants) :
    (field table).RecoversBy (ClassImage.fieldBytes (f.imageBy ref)) f f.check :=
  ((text_recovers h.head).bind_by ((text_recovers h.tail.head).bind_by
    ((word16_recovers f.flags).bind_by ((initial_recovers h).bind_by (.ofExcept f))))).congr
      (by simp [ClassImage.fieldBytes, FieldDef.imageBy]) rfl rfl

/-- A method of well-formed instructions is recovered, or refused with the error of its checks. -/
theorem method_checked {m : MethodDef} (h : table.Holds ref m.constants)
    (hlength : (codeLayout ref m.code).length < 2 ^ 32) (hcode : ∀ i ∈ m.code, i.WellFormed) :
    (method table).RecoversBy (m.imageBy ref).layout m m.validate := by
  refine ((text_recovers h.head).bind_by ((text_recovers h.tail.head).bind_by
    ((word16_recovers m.flags).bind_by ((word16_recovers m.maxLocals).bind_by
      ((word32_recovers _).bind_by (.offset fun offset => (codeBytes_recovers hlength).bind_by
        (((code_recovers h.tail.tail offset).by_check hcode).bind
          (.ofExcept m)))))))).congr ?_ rfl ?_
  · simp [MethodImage.layout, MethodDef.imageBy]
  · cases m.validate <;> rfl

/-- A class of well-formed instructions is recovered from all of its bytes, or refused with the
error of its checks. -/
theorem classBody_checked {b : ClassBody} {poolBytes : Bytes}
    (hpool : b.pool.toBytes = .ok poolBytes) (hcount : b.Countable)
    (hcode : ∀ m ∈ b.methods, ∀ i ∈ m.code, i.WellFormed) :
    classBody.ExhaustsBy
      (magic ++ (BigEndian.word16 formatVersion ++ (poolBytes ++ b.layout b.pool.reference)))
      b b.check := by
  have hfits := ConstantPool.overflowed_of_toBytes hpool
  have hholds : b.pool.entries.Holds b.pool.reference b.constants := fun c hc =>
    ConstantPool.internAll_get ConstantPool.sound_empty hfits hc
  have hsuper := hholds.tail.left
  have hsignature := hholds.tail.right.left
  have hinterfaces := hholds.tail.right.right.left
  have hfields := hholds.tail.right.right.right.left
  have hmethods := hholds.tail.right.right.right.right
  have hnames := fun s hs => text_recovers (hinterfaces (.text s) (List.mem_map_of_mem hs))
  have hcounted {n : Nat} (hn : n ≤ 65535) : (UInt16.ofNat n).toNat = n :=
    UInt16.toNat_ofNat_of_lt' (Nat.lt_succ_of_le hn)
  have hend : (Reader.remaining >>= fun trailing =>
      if trailing ≠ 0 then Reader.fail (.trailingBytes trailing)
      else Pure.pure b : FormatReader ClassBody).ExhaustsBy [] b (.ok ()) := fun _ => rfl
  refine Reader.ExhaustsBy.congr (
    head_recovers.bind_exhausts_by <| (pool_recovers hpool).bind_exhausts_by <|
    (text_recovers hholds.head).bind_exhausts_by <|
    (byte_recovers b.kind.tag).bind_exhausts_by <|
    Reader.Recovers.bind_exhausts_by (?kind : Reader.Recovers _ [] b.kind True) <|
    (word16_recovers b.flags).bind_exhausts_by <|
    (optionalName_recovers hsuper).bind_exhausts_by <|
    (optionalName_recovers hsignature).bind_exhausts_by <|
    (word16_recovers _).bind_exhausts_by <|
    ((table_recovers hcount.interfaces hnames).by_check fun _ _ => trivial).bind_exhausts <|
    (word16_recovers _).bind_exhausts_by <|
    (RecoversBy.times (hcounted hcount.fields) fun f hf =>
      field_checked (hfields.part hf)).bind_exhausts <|
    (word16_recovers _).bind_exhausts_by <|
    (RecoversBy.times (hcounted hcount.methods) fun m hm =>
      method_checked (hmethods.part hm) (hcount.code m hm) (hcode m hm)).bind_exhausts hend)
    ?bytes ?check
  case kind =>
    rw [ofTag?_classKind]
    exact Reader.Recovers.pure b.kind
  case bytes => simp [ClassBody.layout]
  case check =>
    unfold ClassBody.check
    cases b.fields.forM FieldDef.check with
    | error e => rfl
    | ok u => cases b.methods.forM MethodDef.validate <;> rfl

end FormatReader

namespace ClassBody

variable {b : ClassBody} {bytes : Bytes}

/-- What the bytes of a class of well-formed instructions are read as. -/
theorem decode_of_check (h : b.encode = .ok bytes)
    (hcode : ∀ m ∈ b.methods, ∀ i ∈ m.code, i.WellFormed) :
    decode bytes = b.check.map fun _ => b := by
  obtain ⟨hcount, poolBytes, hpool, rfl⟩ := encode_ok_iff.mp h
  exact FormatReader.classBody_checked hpool hcount hcode 0

/-- Well-formed methods behind the others pass the checks. -/
theorem check_append (b : ClassBody) {methods : List MethodDef}
    (h : ∀ m ∈ methods, m.WellFormed) :
    ({ b with methods := b.methods ++ methods } : ClassBody).check = b.check := by
  have hmore : methods.forM MethodDef.validate = .ok () :=
    Checked.forM_eq_ok.mpr fun m hm => MethodDef.validate_ok_iff.mpr (h m hm).fits
  have hall : (b.methods ++ methods).forM MethodDef.validate =
      b.methods.forM MethodDef.validate := by
    have hsplit : (b.methods ++ methods).forM MethodDef.validate =
        (b.methods.forM MethodDef.validate >>= fun _ => methods.forM MethodDef.validate) :=
      List.forM_append
    rw [hsplit, hmore]
    cases b.methods.forM MethodDef.validate <;> rfl
  unfold check
  dsimp only
  rw [hall]

end ClassBody

end EntityForge
