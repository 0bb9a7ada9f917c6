import EntityForge.Proofs.Bytes.Consumption
import EntityForge.Proofs.Class.Canonical

/-!
A class ends where its bytes say. Every count and every length stands in front of what it counts, so
each part of a class delimits itself, and the check that nothing is left seals the whole. Bytes from
which a class is read can neither be cut short nor continued without notice.
-/

namespace EntityForge

open Reader (SelfDelimiting Sealed)

/-- The failure that bytes are missing at some offset. -/
def FormatError.IsEof (e : FormatError) : Prop := ∃ offset, e = .unexpectedEof offset

namespace FormatReader

theorem take_delimits (n : Nat) : (take n).SelfDelimiting FormatError.IsEof :=
  .take (fun offset => ⟨offset, rfl⟩) n

theorem byte_delimits : byte.SelfDelimiting FormatError.IsEof := (take_delimits 1).map _

theorem word16_delimits : word16.SelfDelimiting FormatError.IsEof := (take_delimits 2).map _

theorem word32_delimits : word32.SelfDelimiting FormatError.IsEof := (take_delimits 4).map _

theorem word64_delimits : word64.SelfDelimiting FormatError.IsEof := (take_delimits 8).map _

/-! The pool. -/

/-- The tag of an entry, or the length behind it, tells how many bytes it has. -/
theorem poolEntry_delimits (index : Nat) :
    (poolEntry index).SelfDelimiting FormatError.IsEof := by
  refine .offset fun offset => byte_delimits.bind fun tag => ?_
  split
  · refine word16_delimits.bind fun length => (take_delimits length.toNat).bind fun bytes => ?_
    split
    · exact .pure _
    · exact .fail _
  · exact word32_delimits.map _
  · exact word32_delimits.map _
  · exact word64_delimits.map _
  · exact word64_delimits.map _
  · exact .fail _

private theorem poolEntries_delimits (table : ConstantTable) (n : Nat) :
    (poolEntries table n).SelfDelimiting FormatError.IsEof := by
  induction n generalizing table with
  | zero => exact .pure table
  | succ n ih => exact (poolEntry_delimits _).bind fun c => ih (table.push c)

theorem pool_delimits : pool.SelfDelimiting FormatError.IsEof :=
  word16_delimits.bind fun count => poolEntries_delimits #[] count.toNat

/-! References and members. -/

variable (table : ConstantTable)

theorem text_delimits : (text table).SelfDelimiting FormatError.IsEof :=
  word16_delimits.bind fun _ => .ofExcept _

theorem optionalText_delimits : (optionalText table).SelfDelimiting FormatError.IsEof :=
  word16_delimits.bind fun _ => .ofExcept _

theorem optionalConstant_delimits :
    (optionalConstant table).SelfDelimiting FormatError.IsEof := by
  refine word16_delimits.bind fun index => ?_
  split
  · exact .pure none
  · exact (SelfDelimiting.ofExcept _).map some

theorem field_delimits : (field table).SelfDelimiting FormatError.IsEof :=
  (text_delimits table).bind fun _ => (text_delimits table).bind fun _ =>
    word16_delimits.bind fun _ => (optionalConstant_delimits table).bind fun _ =>
      (SelfDelimiting.ofExcept _).bind fun _ => .pure _

/-- Code is a byte string of its own: its bytes are all there before one of them is looked at. -/
theorem method_delimits : (method table).SelfDelimiting FormatError.IsEof :=
  (text_delimits table).bind fun _ => (text_delimits table).bind fun _ =>
    word16_delimits.bind fun _ => word16_delimits.bind fun _ => word32_delimits.bind fun length =>
      .offset fun _ => (take_delimits length.toNat).bind fun _ =>
        (SelfDelimiting.ofExcept _).bind fun _ => (SelfDelimiting.ofExcept _).bind fun _ => .pure _

/-! The class. -/

/-- All that is read behind the magic number is sealed. The number is left out since bytes that are
missing in it are missed in a way of their own. -/
theorem classBody_seals : ∃ behind : Bytes → FormatReader ClassBody,
    (∀ c, classBody.run c =
      (Reader.take (fun _ => FormatError.badMagic) magic.length >>= behind).run c) ∧
    ∀ found, (behind found).Sealed FormatError.IsEof .trailingBytes := by
  refine ⟨_, fun c => Reader.run_assoc _ _ _ c, fun found => .bind ?_ fun _ => ?_⟩
  · split
    · exact .fail _
    · refine word16_delimits.bind fun version => ?_
      split
      · exact .fail _
      · exact .pure ()
  refine .bind pool_delimits fun table => .bind (text_delimits table) fun name =>
    .bind byte_delimits fun tag => .bind (.ofExcept _) fun kind =>
    .bind word16_delimits fun flags => .bind (optionalText_delimits table) fun superName =>
    .bind (optionalText_delimits table) fun signature => .bind word16_delimits fun interfaceCount =>
    .bind ((text_delimits table).times _) fun interfaces => .bind word16_delimits fun fieldCount =>
    .bind ((field_delimits table).times _) fun fields => .bind word16_delimits fun methodCount =>
    .bind ((method_delimits table).times _) fun methods => ?_
  exact .atEnd _

end FormatReader

namespace ClassBody

theorem decode_error {bytes : Bytes} {e : FormatError}
    (h : FormatReader.classBody.run ⟨bytes, 0⟩ = .error e) : decode bytes = .error e := by
  rw [decode, h]
  rfl

/-- Bytes from which a class is read can neither be cut short nor continued. Too few of them are
missed at their end, or are no class at all if not even the magic number is there; bytes behind them
are counted. -/
theorem decode_complete {bytes : Bytes} {b : ClassBody} (h : decode bytes = .ok b) :
    (∀ cut, cut <+: bytes → cut ≠ bytes →
      (cut.length < magic.length → decode cut = .error .badMagic) ∧
      (magic.length ≤ cut.length → ∃ offset, decode cut = .error (.unexpectedEof offset))) ∧
    ∀ extra, extra ≠ [] → decode (bytes ++ extra) = .error (.trailingBytes extra.length) := by
  obtain ⟨⟨b', d⟩, hrun, rfl⟩ := Checked.map_eq_ok.mp h
  obtain ⟨behind, hparts, hsealed⟩ := FormatReader.classBody_seals
  have hmagic : (Reader.take (fun _ => FormatError.badMagic) magic.length).SelfDelimiting
      (· = .badMagic) := by
    refine .take ?_ _
    exact fun _ => rfl
  rw [hparts] at hrun
  obtain ⟨found, middle, hfound, hcut, hextra⟩ := Sealed.parts hmagic hsealed hrun
  obtain ⟨n, hlength, rfl, -⟩ := Reader.Spends.take _ _ _ _ _ hfound
  dsimp only at hcut hextra hlength
  refine ⟨fun cut hprefix hne => ?_, fun extra hne =>
    decode_error ((hparts _).trans (hextra extra hne))⟩
  obtain ⟨e, he, hreason⟩ := hcut cut hprefix hne
  have hrefused := decode_error ((hparts _).trans he)
  constructor
  · intro hshort
    rw [if_pos (by omega)] at hreason
    rw [hrefused, hreason]
  · intro hlong
    rw [if_neg (by omega)] at hreason
    obtain ⟨offset, rfl⟩ := hreason
    exact ⟨offset, hrefused⟩

/-- The bytes of a class with a method, cut inside the magic number and behind it, and continued. -/
theorem decode_complete_flagged :
    decode flaggedBytes = .ok flagged ∧ decode (flaggedBytes.take 3) = .error .badMagic ∧
      (∃ offset, decode (flaggedBytes.take 40) = .error (.unexpectedEof offset)) ∧
      decode (flaggedBytes ++ [0x52]) = .error (.trailingBytes 1) := by
  have hread : decode flaggedBytes = .ok flagged := by decide +kernel
  obtain ⟨hcut, hextra⟩ := decode_complete hread
  refine ⟨hread, ?_, ?_, hextra [0x52] (by simp)⟩
  · exact (hcut _ (List.take_prefix 3 _) (by decide)).1 (by decide)
  · exact (hcut _ (List.take_prefix 40 _) (by decide)).2 (by decide)

end ClassBody

end EntityForge
