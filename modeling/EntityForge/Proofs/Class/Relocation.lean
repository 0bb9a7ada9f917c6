import EntityForge.Proofs.Bytes.Agreement
import EntityForge.Proofs.Class.RoundTrip

/-!
Classes with their literals in other places. A class may be laid out over any table that holds its
literals, and only the indices differ then. Reading does not see the difference: from two such
layouts the same class is read, or both are refused for the same reason, at the same offset.
-/

namespace EntityForge

open Reader (Recovers Agrees EndsAlike)

namespace FormatReader

variable {table table' : ConstantTable} {ref ref' : Constant → UInt16} {index index' : UInt16}

theorem text_agrees {s : String} (h : table.get index = .ok (.text s))
    (h' : table'.get index' = .ok (.text s)) :
    (text table).Agrees (text table') (BigEndian.word16 index) (BigEndian.word16 index') s :=
  (text_recovers h).agrees (text_recovers h') rfl

theorem methodDescriptor_agrees {descriptor : String}
    (h : table.get index = .ok (.text descriptor))
    (h' : table'.get index' = .ok (.text descriptor)) :
    (methodDescriptor table).Agrees (methodDescriptor table') (BigEndian.word16 index)
      (BigEndian.word16 index') descriptor :=
  (text_agrees h h').bind_last (.check (checkMethodType descriptor) descriptor)

theorem castTarget_agrees {target : String} (h : table.get index = .ok (.text target))
    (h' : table'.get index' = .ok (.text target)) :
    (castTarget table).Agrees (castTarget table') (BigEndian.word16 index)
      (BigEndian.word16 index') target := by
  apply (text_agrees h h').bind_last
  split
  · exact .check (checkType target) target
  · exact .pure target

/-- A byte for a primitive does not refer to a table; void is refused where it stands. -/
theorem primitive_agrees (p : Primitive) : primitive.Agrees primitive [p.code] [p.code] p := by
  apply Agrees.offset
  intro offset
  apply ((byte_recovers p.code).agrees (byte_recovers p.code) rfl).bind_last
  cases p with
  | void =>
    refine ⟨rfl, fun _ => .inr ⟨.badPrimitive Primitive.void.code offset, ?_⟩⟩
    intro rest rest'
    exact ⟨rfl, rfl⟩
  | _ => exact .pure _

/-- An instruction is read alike from its operands over both tables. There is one case for each
shape of operands. -/
theorem instruction_agrees {i : Instruction} (h : table.Holds ref i.constants)
    (h' : table'.Holds ref' i.constants) (offset : Nat) :
    (instruction table offset i.opcode).Agrees (instruction table' offset i.opcode)
      (i.operandLayout ref) (i.operandLayout ref') i := by
  have hlength : (i.operandLayout ref).length = (i.operandLayout ref').length := by
    have hsize := operandLayout_length ref i
    have hsize' := operandLayout_length ref' i
    omega
  cases i with
  | nop | dup | pop | pushNull | annotationEnd | handleGet | returnValue | returnVoid
  | load _ | pushBool _ | newList _ | intrinsic _ | loadConstant _ | newType _ _ _ _ _
  | getField _ _ | putField _ _ | resolveField _ _ | newEnum _ _ | handleSet _ _
  | annotationBegin _ | annotationSet _ | throw _ =>
    exact (instruction_recovers h offset).agrees (instruction_recovers h' offset) hlength
  | invoke className name descriptor =>
    exact (text_agrees h.head h'.head).bind ((text_agrees h.tail.head h'.tail.head).bind
      ((methodDescriptor_agrees h.tail.tail.head h'.tail.tail.head).bind (.pure _)))
  | new className descriptor =>
    exact (text_agrees h.head h'.head).bind
      ((methodDescriptor_agrees h.tail.head h'.tail.head).bind (.pure _))
  | resolveMethod className name descriptor required =>
    exact (text_agrees h.head h'.head).bind ((text_agrees h.tail.head h'.tail.head).bind
      ((methodDescriptor_agrees h.tail.tail.head h'.tail.tail.head).bind
        (((bool_recovers required).agrees (bool_recovers required) rfl).bind (.pure _))))
  | checkCast target => exact (castTarget_agrees h.head h'.head).bind (.pure _)
  | box p | unbox p => exact (primitive_agrees p).bind (.pure _)

/-- Code is a byte string of its own, which both read to its end or refuse at one instruction. -/
theorem code_agrees {code : List Instruction}
    (h : table.Holds ref (code.flatMap Instruction.constants))
    (h' : table'.Holds ref' (code.flatMap Instruction.constants)) (offset : Nat) :
    (Reader.ofExcept (Reader.untilEnd (instruction table) ⟨codeLayout ref code, offset⟩)).Agrees
      (Reader.ofExcept (Reader.untilEnd (instruction table') ⟨codeLayout ref' code, offset⟩))
      [] [] code := by
  apply Agrees.ofExcept
  · exact Agrees.untilEndFrom code [] offset fun i hi n =>
      instruction_agrees (h.part hi) (h'.part hi) n
  · intro found hfound
    have hread := code_recovers h offset
    by_cases hwell : ∀ i ∈ code, i.WellFormed
    · have hok := hread.ok hwell [] 0
      rw [hfound] at hok
      cases hok
      rfl
    · obtain ⟨e, he⟩ := hread.error hwell [] 0
      rw [hfound] at he
      cases he

theorem field_agrees {f : FieldDef} (h : table.Holds ref f.constants)
    (h' : table'.Holds ref' f.constants) :
    (field table).Agrees (field table') (ClassImage.fieldBytes (f.imageBy ref))
      (ClassImage.fieldBytes (f.imageBy ref')) f := by
  have hinitial : (optionalConstant table).Agrees (optionalConstant table')
      (BigEndian.word16 (f.initial.elim 0 ref)) (BigEndian.word16 (f.initial.elim 0 ref'))
      f.initial := by
    have hconstants := h.tail.tail
    have hconstants' := h'.tail.tail
    cases hf : f.initial with
    | none =>
      exact (optionalConstant_zero_recovers table).agrees
        (optionalConstant_zero_recovers table') rfl
    | some c =>
      rw [hf] at hconstants hconstants'
      exact (optionalConstant_recovers hconstants.head).agrees
        (optionalConstant_recovers hconstants'.head) rfl
  have hflags := (word16_recovers f.flags).agrees (word16_recovers f.flags) rfl
  have hname := text_agrees h.head h'.head
  have hdescriptor := text_agrees h.tail.head h'.tail.head
  refine Agrees.congr (hname.bind (hdescriptor.bind
    (hflags.bind (hinitial.bind_last (.check (checkType f.descriptor) f))))) ?_ ?_ rfl
  · simp [ClassImage.fieldBytes, FieldDef.imageBy]
  · simp [ClassImage.fieldBytes, FieldDef.imageBy]

theorem method_agrees {m : MethodDef} (h : table.Holds ref m.constants)
    (h' : table'.Holds ref' m.constants) (hlength : codeSize m.code < 2 ^ 32) :
    (method table).Agrees (method table') (m.imageBy ref).layout (m.imageBy ref').layout m := by
  have hword (w : UInt16) := (word16_recovers w).agrees (word16_recovers w) rfl
  have hsize : (codeLayout ref m.code).length = (codeLayout ref' m.code).length := by
    rw [codeLayout_length, codeLayout_length]
  have htake (ref : Constant → UInt16) : (take (UInt32.ofNat (codeSize m.code)).toNat).Recovers
      (codeLayout ref m.code) (codeLayout ref m.code) True := by
    rw [UInt32.toNat_ofNat_of_lt' hlength, ← codeLayout_length ref]
    exact take_recovers _
  have hcount := word32_recovers (UInt32.ofNat (codeSize m.code))
  have hname := text_agrees h.head h'.head
  have hdescriptor := text_agrees h.tail.head h'.tail.head
  have hcode := code_agrees h.tail.tail h'.tail.tail
  refine Agrees.congr (hname.bind (hdescriptor.bind ((hword m.flags).bind ((hword m.maxLocals).bind
    ((hcount.agrees hcount rfl).bind (.offset fun offset =>
      (htake ref).bind_agrees (htake ref') hsize
        ((hcode offset).bind_last (.check m.validate m)))))))) ?_ ?_ rfl
  · simp [MethodImage.layout, MethodDef.imageBy, codeLayout_length]
  · simp [MethodImage.layout, MethodDef.imageBy, codeLayout_length]

theorem optionalName_agrees {name? : Option String} (h : table.Holds ref (name?.toList.map .text))
    (h' : table'.Holds ref' (name?.toList.map .text)) :
    (optionalText table).Agrees (optionalText table')
      (BigEndian.word16 (name?.elim 0 fun s => ref (.text s)))
      (BigEndian.word16 (name?.elim 0 fun s => ref' (.text s))) name? :=
  (optionalName_recovers h).agrees (optionalName_recovers h') rfl

/-- A table of parts is read alike. -/
theorem countedTable_agrees {α : Type} {r r' : FormatReader α} {encode encode' : α → Bytes}
    {items : List α} (hcount : items.length ≤ 65535)
    (h : ∀ x ∈ items, r.Agrees r' (encode x) (encode' x) x) :
    (Reader.times r (UInt16.ofNat items.length).toNat).Agrees
      (Reader.times r' (UInt16.ofNat items.length).toNat) (items.flatMap encode)
      (items.flatMap encode') items :=
  .times (UInt16.toNat_ofNat_of_lt' (Nat.lt_succ_of_le hcount)) h

/-- Two layouts of a class behind pools of one size are read alike. -/
theorem classBody_endsAlike {b : ClassBody} {pool pool' : ConstantPool}
    {poolBytes poolBytes' : Bytes} (hpool : pool.toBytes = .ok poolBytes)
    (hpool' : pool'.toBytes = .ok poolBytes')
    (hlength : poolBytes.length = poolBytes'.length)
    (hholds : pool.entries.Holds ref b.constants) (hholds' : pool'.entries.Holds ref' b.constants)
    (hcount : b.Countable) :
    classBody.EndsAlike classBody
      (magic ++ (BigEndian.word16 formatVersion ++ (poolBytes ++ b.layout ref)))
      (magic ++ (BigEndian.word16 formatVersion ++ (poolBytes' ++ b.layout ref'))) := by
  have hsuper := optionalName_agrees hholds.tail.left hholds'.tail.left
  have hsignature := optionalName_agrees hholds.tail.right.left hholds'.tail.right.left
  have hinterfaces := hholds.tail.right.right.left
  have hinterfaces' := hholds'.tail.right.right.left
  have hfields := hholds.tail.right.right.right.left
  have hfields' := hholds'.tail.right.right.right.left
  have hmethods := hholds.tail.right.right.right.right
  have hmethods' := hholds'.tail.right.right.right.right
  have hword (w : UInt16) := (word16_recovers w).agrees (word16_recovers w) rfl
  have hkind := (byte_recovers b.kind.tag).agrees (byte_recovers b.kind.tag) rfl
  have hhead := head_recovers.agrees head_recovers rfl
  have hcode : ∀ m ∈ b.methods, codeSize m.code < 2 ^ 32 := by
    simpa only [codeLayout_length] using hcount.code
  have hnames (s : String) (hs : s ∈ b.interfaces) :=
    have hin : Constant.text s ∈ b.interfaces.map .text := List.mem_map_of_mem hs
    text_agrees (hinterfaces _ hin) (hinterfaces' _ hin)
  have hend : (Reader.remaining >>= fun trailing =>
      if trailing ≠ 0 then Reader.fail (.trailingBytes trailing)
      else Pure.pure b : FormatReader ClassBody).EndsAlike (Reader.remaining >>= fun trailing =>
      if trailing ≠ 0 then Reader.fail (.trailingBytes trailing)
      else Pure.pure b) [] [] := fun _ => rfl
  refine EndsAlike.congr (
    hhead.bind_endsAlike <|
    (pool_recovers hpool).bind_endsAlike (pool_recovers hpool') hlength <|
    (text_agrees hholds.head hholds'.head).bind_endsAlike <|
    hkind.bind_endsAlike <|
    Agrees.bind_endsAlike (?kind : Agrees _ _ [] [] b.kind) <|
    (hword b.flags).bind_endsAlike <| hsuper.bind_endsAlike <| hsignature.bind_endsAlike <|
    (hword _).bind_endsAlike <| (countedTable_agrees hcount.interfaces hnames).bind_endsAlike <|
    (hword _).bind_endsAlike <|
    (countedTable_agrees hcount.fields fun f hf =>
      field_agrees (hfields.part hf) (hfields'.part hf)).bind_endsAlike <|
    (hword _).bind_endsAlike <|
    (countedTable_agrees hcount.methods fun m hm =>
      method_agrees (hmethods.part hm) (hmethods'.part hm) (hcode m hm)).bind_endsAlike hend)
    ?bytes ?bytes'
  case kind =>
    rw [ofTag?_classKind]
    exact .pure b.kind
  case bytes => simp [ClassBody.layout]
  case bytes' => simp [ClassBody.layout]

end FormatReader

end EntityForge
