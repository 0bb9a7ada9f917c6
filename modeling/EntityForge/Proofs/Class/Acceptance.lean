import EntityForge.Proofs.Bytes.Recovery
import EntityForge.Proofs.Class.WellFormed

/-!
What reading accepts. Any bytes may be offered; a class that is read from them is well-formed, since
each of its parts is checked where it is read. The rules follow the ways in which readers are put
together.
-/

namespace EntityForge

namespace Reader

variable {ε α β : Type} {P : α → Prop} {Q : β → Prop} {r : Reader ε α}

/-- Whatever a reader answers has a property. -/
def Answers (r : Reader ε α) (P : α → Prop) : Prop := ∀ c a d, r.run c = .ok (a, d) → P a

namespace Answers

theorem any (r : Reader ε α) : r.Answers fun _ => True := fun _ _ _ _ => trivial

theorem pure {a : α} (h : P a) : Answers (ε := ε) (Pure.pure a) P := by
  intro c b d hrun
  cases hrun
  exact h

theorem fail (e : ε) : Answers (Reader.fail e) P := fun _ _ _ hrun => nomatch hrun

theorem bind {f : α → Reader ε β} (hr : r.Answers P) (hf : ∀ a, P a → (f a).Answers Q) :
    (r >>= f).Answers Q := by
  intro c b d hrun
  rw [run_bind] at hrun
  cases hfirst : r.run c with
  | error e =>
    rw [hfirst] at hrun
    cases hrun
  | ok p =>
    obtain ⟨a, d'⟩ := p
    rw [hfirst] at hrun
    exact hf a (hr c a d' hfirst) d' b d hrun

/-- A part of which nothing need be known. -/
theorem skip {f : α → Reader ε β} (hf : ∀ a, (f a).Answers Q) : (r >>= f).Answers Q :=
  (any r).bind fun a _ => hf a

theorem ofExcept {x : Except ε α} (h : ∀ a, x = .ok a → P a) : (Reader.ofExcept x).Answers P := by
  cases x with
  | ok a => exact pure (h a rfl)
  | error e => exact fail e

private theorem timesFrom (h : r.Answers P) (done : List α) (n : Nat) (hdone : ∀ a ∈ done, P a) :
    (Reader.timesFrom r done n).Answers fun items => ∀ a ∈ items, P a := by
  induction n generalizing done with
  | zero => exact pure fun a ha => hdone a (List.mem_reverse.mp ha)
  | succ n ih =>
    refine h.bind fun a ha => ih (a :: done) fun b hb => ?_
    rcases List.mem_cons.mp hb with rfl | hb
    · exact ha
    · exact hdone b hb

theorem times (h : r.Answers P) (n : Nat) :
    (Reader.times r n).Answers fun items => ∀ a ∈ items, P a :=
  timesFrom h [] n nofun

end Answers

private theorem untilEndFrom_all {step : Nat → UInt8 → Reader ε α}
    (h : ∀ offset b, (step offset b).Answers P) (done : List α) (c : Cursor)
    (hdone : ∀ a ∈ done, P a) {items : List α} (hrun : untilEndFrom step done c = .ok items) :
    ∀ a ∈ items, P a := by
  fun_induction untilEndFrom step done c with
  | case1 done c hrest =>
    cases hrun
    exact fun a ha => hdone a (List.mem_reverse.mp ha)
  | case2 done c b rest hrest a d hstep ih =>
    refine ih (fun x hx => ?_) hrun
    rcases List.mem_cons.mp hx with rfl | hx
    · exact h _ _ _ _ _ hstep
    · exact hdone x hx
  | case3 => cases hrun

/-- Values that are read up to the end of the bytes. -/
theorem untilEnd_all {step : Nat → UInt8 → Reader ε α} (h : ∀ offset b, (step offset b).Answers P)
    {c : Cursor} {items : List α} (hrun : untilEnd step c = .ok items) : ∀ a ∈ items, P a :=
  untilEndFrom_all h [] c nofun hrun

end Reader

open Reader (Answers)

namespace FormatReader

variable (table : ConstantTable)

theorem methodDescriptor_answers : (methodDescriptor table).Answers IsMethodDescriptor := by
  refine .skip fun descriptor => ?_
  refine (Answers.ofExcept fun type htype => checkMethodType_ok_iff.mp htype).bind
    (P := fun type => MethodType.parse descriptor = .ok type) fun type htype => ?_
  exact .pure ⟨type, htype⟩

theorem isTypeDescriptor_of_check {descriptor : String} {type : TypeTree}
    (h : checkType descriptor = .ok type) : IsTypeDescriptor descriptor := by
  unfold checkType at h
  cases hparse : Signature.parseType descriptor with
  | ok t => exact ⟨t, hparse⟩
  | error e =>
    rw [hparse] at h
    cases h

theorem castTarget_answers :
    (castTarget table).Answers fun target => isArrayTarget target = true → IsTypeDescriptor target := by
  refine .skip fun target => ?_
  split
  · refine (Answers.ofExcept fun type htype => isTypeDescriptor_of_check htype).bind
      (P := fun _ => IsTypeDescriptor target) fun _ htarget => ?_
    exact .pure fun _ => htarget
  · next hclass => exact .pure fun harray => absurd harray hclass

theorem primitive_answers : primitive.Answers (· ≠ .void) := by
  refine .skip fun offset => .skip fun b => ?_
  dsimp only
  split
  · next p hcoded => exact .pure (by simpa using (Option.filter_eq_some_iff.mp hcoded).2)
  · exact .fail _

/-- Every instruction that is read is well-formed. -/
theorem instruction_answers (offset : Nat) (opcode : UInt8) :
    (instruction table offset opcode).Answers Instruction.WellFormed := by
  unfold instruction
  split
  case h_10 =>
    exact .skip fun _ => .skip fun _ => (methodDescriptor_answers table).bind fun _ h => .pure h
  case h_11 => exact .skip fun _ => (methodDescriptor_answers table).bind fun _ h => .pure h
  case h_12 => exact (castTarget_answers table).bind fun _ h => .pure h
  case h_13 => exact primitive_answers.bind fun _ h => .pure h
  case h_14 => exact primitive_answers.bind fun _ h => .pure h
  case h_22 =>
    exact .skip fun _ => .skip fun _ => (methodDescriptor_answers table).bind fun _ h =>
      .skip fun _ => .pure h
  case h_29 => exact .fail _
  case h_15 =>
    exact .skip fun _ => .skip fun _ => .skip fun _ => .skip fun _ => .skip fun _ => .pure trivial
  case h_1 | h_3 | h_4 | h_5 | h_20 | h_23 | h_27 | h_28 => exact .pure trivial
  case h_2 | h_6 | h_7 | h_16 | h_18 | h_19 | h_25 | h_26 =>
    exact .skip fun _ => .pure trivial
  case h_8 | h_9 | h_17 | h_21 | h_24 => exact .skip fun _ => .skip fun _ => .pure trivial

theorem field_answers : (field table).Answers fun f => IsTypeDescriptor f.descriptor := by
  refine .skip fun name => .skip fun descriptor => .skip fun flags => .skip fun initial => ?_
  refine (Answers.ofExcept fun type htype => isTypeDescriptor_of_check htype).bind
    (P := fun _ => IsTypeDescriptor descriptor) fun _ hdescriptor => ?_
  exact .pure hdescriptor

theorem method_answers : (method table).Answers MethodDef.WellFormed := by
  refine .skip fun name => .skip fun descriptor => .skip fun flags => .skip fun maxLocals =>
    .skip fun length => .skip fun offset => .skip fun bytes => ?_
  refine (Answers.ofExcept fun code hcode =>
    Reader.untilEnd_all (instruction_answers table) hcode).bind fun code hcode => ?_
  refine (Answers.ofExcept fun _ hvalid => MethodDef.validate_ok_iff.mp hvalid).bind
    fun _ hfits => ?_
  exact .pure ⟨hcode, hfits⟩

theorem classBody_answers : classBody.Answers ClassBody.WellFormed := by
  refine .skip fun _ => .skip fun table => .skip fun name => .skip fun tag => .skip fun kind =>
    .skip fun flags => .skip fun superName => .skip fun signature => .skip fun interfaceCount =>
    .skip fun interfaces => .skip fun fieldCount => ?_
  refine ((field_answers table).times _).bind fun fields hfields => .skip fun methodCount => ?_
  refine ((method_answers table).times _).bind fun methods hmethods => .skip fun trailing => ?_
  split
  · exact .fail _
  · exact .pure ⟨hfields, hmethods⟩

end FormatReader

/-- Whatever bytes a class is read from, it is well-formed. -/
theorem ClassBody.decode_wellFormed {bytes : Bytes} {b : ClassBody} (h : decode bytes = .ok b) :
    b.WellFormed := by
  obtain ⟨⟨b', d⟩, hrun, rfl⟩ := Checked.map_eq_ok.mp h
  exact FormatReader.classBody_answers _ _ _ hrun

end EntityForge
