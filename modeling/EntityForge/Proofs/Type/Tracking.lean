import EntityForge.Proofs.Type.ByteResolving
import EntityForge.Proofs.Type.Resolving

/-!
Resolving by positions keeps in step with resolving from characters. Wherever characters stand in a
text, both find the same type and stop where the rest of the characters stands, or both refuse the
text with the same error; so a reader of bytes is never at a position that it does not expect. The
argument follows the grammar, one lemma for each of its parts.
-/

namespace EntityForge.Signature

open Bytewise (byteAt peek refuse part scan bracketsFrom closingFrom closing)

variable {s : String} {pos stop : Nat} {c : Char} {cs : List Char}

/-! Errors and their positions. -/

/-- An error is about a position up to an end, and the byte it shows stands there. -/
structure Located (s : String) (stop : Nat) (e : SignatureError) : Prop where
  within : ∀ pos, e.position? = some pos → pos ≤ stop
  shown : ∀ c pos, e = .unexpectedChar c pos → pos < stop ∧ byte? s pos = some c

theorem Located.mono {e : SignatureError} {stop' : Nat} (h : Located s stop e)
    (hle : stop ≤ stop') : Located s stop' e := by
  refine ⟨fun pos hpos => (h.within pos hpos).trans hle, fun c pos heq => ?_⟩
  obtain ⟨hlt, hbyte⟩ := h.shown c pos heq
  exact ⟨Nat.lt_of_lt_of_le hlt hle, hbyte⟩

def shown? : SignatureError → Option Char
  | .unexpectedChar c _ => some c
  | _ => none

/-- An error that shows no byte is located by its position. -/
theorem Located.at {e : SignatureError} {q : Nat} (hpos : e.position? = some q) (hle : q ≤ stop)
    (hplain : shown? e = none) : Located s stop e := by
  refine ⟨?_, ?_⟩
  · intro pos he
    cases hpos.symm.trans he
    exact hle
  · rintro c pos rfl
    cases hplain

theorem Located.nowhere {e : SignatureError} (h : e.position? = none) : Located s stop e := by
  refine ⟨fun pos he => ?_, ?_⟩
  · cases h.symm.trans he
  · rintro c q rfl
    cases h

/-- What scanning for a closing bracket comes to by positions. -/
def closes (opened pos : Nat) : Option (List Char × List Char) → Reading Nat
  | none => .error (.refused (.unbalanced opened))
  | some (inner, _) => .ok (pos + byteLength inner)

theorem closes_step (opened pos : Nat) (c : Char) (found : Option (List Char × List Char)) :
    closes opened (pos + c.utf8Size) found =
      closes opened pos (found.map fun (inner, after) => (c :: inner, after)) := by
  cases found with
  | none => rfl
  | some found => simp [closes, Nat.add_assoc]

theorem lead_ne {m : Char} {rest : List Char} (hm : m.toNat < 128)
    (hno : ∀ rest, ¬ cs = m :: rest) (hcs : cs = c :: rest) : leadByte c ≠ m := by
  rw [Ne, leadByte_eq_iff hm]
  rintro rfl
  exact hno rest hcs

namespace Stands

theorem pos_le (h : Stands s pos cs stop) : pos ≤ stop := by
  rw [h.stop_eq]
  exact Nat.le_add_right _ _

theorem unexpected (h : Stands s pos cs stop) : Located s stop (unexpected pos cs) := by
  cases cs with
  | nil =>
    exact .at rfl h.pos_le rfl
  | cons c cs =>
    refine ⟨?_, ?_⟩
    · rintro q ⟨⟩
      exact h.pos_le
    · rintro c q ⟨⟩
      exact ⟨h.lt_stop, h.byte?_lead⟩

/-! What stands in a text is found by its positions. -/

theorem byteAt_lead (h : Stands s pos (c :: cs) stop) : byteAt s pos = .ok (leadByte c) := by
  rw [byteAt, h.byte?_lead]

theorem peek_lead (h : Stands s pos (c :: cs) stop) : peek s pos stop = .ok (leadByte c) := by
  rw [peek, if_pos h.lt_stop, h.byteAt_lead]

theorem peek_ascii (hc : c.toNat < 128) (h : Stands s pos (c :: cs) stop) :
    peek s pos stop = .ok c := by
  rw [h.peek_lead, leadByte_ascii hc]

theorem peek_end (h : Stands s pos [] stop) :
    peek s pos stop = .error (.refused (.unexpectedEnd pos)) := by
  rw [peek, if_neg h.not_lt_stop]

theorem refuse_eq {α : Type} (h : Stands s pos (c :: cs) stop) :
    (refuse s pos : Reading α) = .error (.refused (Signature.unexpected pos (c :: cs))) := by
  rw [refuse, h.byteAt_lead]
  rfl

/-- What expects none of the characters that could stand at a position refuses what stands there. -/
theorem peek_refused {α : Type} {f : Char → Reading α} (h : Stands s pos cs stop)
    (hf : ∀ c rest, cs = c :: rest → f (leadByte c) = refuse s pos) :
    (peek s pos stop >>= f) = .error (.refused (Signature.unexpected pos cs)) := by
  cases cs with
  | nil =>
    rw [h.peek_end]
    rfl
  | cons c rest =>
    rw [h.peek_lead, ← h.refuse_eq]
    exact hf c rest rfl

theorem part_eq (h : Stands s pos cs stop) : part s pos stop = .ok cs := by
  rw [part, h.part?_eq]

/-- A scan by bytes ends where a scan by characters does, if only ASCII characters end it. -/
theorem scan_eq {pass : Char → Bool} (hpass : ∀ d, 128 ≤ d.toNat → pass d = true)
    (h : Stands s pos cs stop) :
    scan s pass stop pos = .ok (pos + byteLength (cs.takeWhile pass)) := by
  induction cs generalizing pos with
  | nil =>
    rw [scan, if_neg h.not_lt_stop]
    rfl
  | cons c cs ih =>
    by_cases hc : c.toNat < 128
    · rw [scan, if_pos h.lt_stop, h.byteAt_lead, leadByte_ascii hc]
      dsimp only
      cases hp : pass c with
      | true =>
        rw [if_pos rfl, ih (h.tail_ascii hc), List.takeWhile_cons_of_pos hp, byteLength_cons,
          utf8Size_ascii hc, Nat.add_assoc]
      | false =>
        rw [if_neg (by simp), List.takeWhile_cons_of_neg (by simp [hp])]
        rfl
    · have hhigh := Nat.le_of_not_lt hc
      have hskip : scan s pass stop pos = scan s pass stop (pos + c.utf8Size) := by
        apply h.skip hhigh
        intro i d hi hbyte hd
        rw [scan, if_pos hi, byteAt, hbyte]
        simp only [hpass d hd, if_true]
      rw [hskip, ih h.tail, List.takeWhile_cons_of_pos (hpass c hhigh), byteLength_cons,
        Nat.add_assoc]

/-- With a bracket open there is one to close, so that counting never goes below zero. -/
theorem closingFrom_eq (opened : Nat) {depth : Nat} (hdepth : 0 < depth) (h : Stands s pos cs stop) :
    closingFrom s opened stop depth pos = closes opened pos (splitClosing depth cs) := by
  induction cs generalizing pos depth with
  | nil =>
    rw [closingFrom, if_neg h.not_lt_stop]
    rfl
  | cons c cs ih =>
    have hstep : c ≠ '<' → c ≠ '>' →
        splitClosing depth (c :: cs) =
          (splitClosing depth cs).map fun (inner, after) => (c :: inner, after) := by
      intro hopen hclose
      rw [splitClosing]
      · exact hopen
      · exact hclose
    by_cases hc : c.toNat < 128
    · have htail := h.tail_ascii hc
      have hnext := closes_step opened pos c
      rw [utf8Size_ascii hc] at hnext
      rw [closingFrom, if_pos h.lt_stop, h.byteAt_lead, leadByte_ascii hc]
      dsimp only
      by_cases hopen : c = '<'
      · subst hopen
        rw [if_pos rfl, ih (Nat.succ_pos depth) htail, hnext, splitClosing]
      · by_cases hclose : c = '>'
        · subst hclose
          rw [if_neg (by decide), if_pos rfl, if_neg (by omega), splitClosing]
          by_cases hlast : depth ≤ 1
          · rw [if_pos (by omega), if_pos hlast]
            rfl
          · rw [if_neg (by omega), if_neg hlast, ih (by omega) htail, hnext]
        · rw [if_neg hopen, if_neg hclose, ih hdepth htail, hnext, hstep hopen hclose]
    · have hhigh := Nat.le_of_not_lt hc
      have hmark (m : Char) (hm : m.toNat < 128) : c ≠ m := by
        rintro rfl
        exact hc hm
      have hskip : closingFrom s opened stop depth pos =
          closingFrom s opened stop depth (pos + c.utf8Size) := by
        apply h.skip hhigh
        intro i d hi hbyte hd
        have hplain (m : Char) (hm : m.toNat < 128) : d ≠ m := by
          rintro rfl
          omega
        rw [closingFrom, if_pos hi, byteAt, hbyte]
        simp only [hplain '<' (by decide), hplain '>' (by decide), if_false]
      rw [hskip, ih hdepth h.tail, closes_step,
        hstep (hmark '<' (by decide)) (hmark '>' (by decide))]

theorem behind_brackets (h : Stands s pos cs stop) :
    Stands s (pos + (cs.takeWhile (· = '[')).length) (cs.dropWhile (· = '[')) stop := by
  have hsplit : Stands s pos (cs.takeWhile (· = '[') ++ cs.dropWhile (· = '[')) stop := by
    rwa [List.takeWhile_append_dropWhile]
  have hbytes : byteLength (cs.takeWhile (· = '[')) = (cs.takeWhile (· = '[')).length := by
    apply byteLength_ascii
    intro c hc
    have hbracket : c = '[' := by simpa using List.mem_takeWhile_imp hc
    rw [hbracket]
    decide
  rw [← hbytes]
  exact hsplit.right

/-- Brackets are counted up to what follows them, unless there are too many. -/
theorem bracketsFrom_eq {dims : Nat} (hdims : dims ≤ 255) (h : Stands s pos cs stop) :
    let more := (cs.takeWhile (· = '[')).length
    bracketsFrom s stop dims pos =
      if 255 < dims + more then .error (.refused (.tooManyDimensions (pos + (255 - dims))))
      else (peek s (pos + more) stop).map fun _ => (dims + more, pos + more) := by
  induction cs generalizing pos dims with
  | nil =>
    rw [List.takeWhile_nil, List.length_nil]
    dsimp only
    rw [Nat.add_zero, Nat.add_zero, bracketsFrom, if_neg h.not_lt_stop,
      if_neg (Nat.not_lt_of_le hdims), h.peek_end]
    rfl
  | cons c cs ih =>
    by_cases hc : c = '['
    · subst hc
      have hlead : leadByte '[' = '[' := by decide
      rw [List.takeWhile_cons_of_pos (by decide), List.length_cons, bracketsFrom,
        if_pos h.lt_stop, h.byteAt_lead, hlead]
      dsimp only
      rw [if_pos rfl]
      by_cases hfull : dims = 255
      · rw [if_pos hfull, if_pos (by omega), hfull]
        rfl
      · have hpos : pos + 1 + (255 - (dims + 1)) = pos + (255 - dims) := by omega
        rw [if_neg hfull, ih (by omega) (h.tail_ascii (by decide))]
        simp only [hpos, Nat.add_assoc, Nat.add_comm 1]
    · have hlead : leadByte c ≠ '[' := by
        rw [Ne, leadByte_eq_iff (by decide)]
        exact hc
      rw [List.takeWhile_cons_of_neg (by simpa using hc), List.length_nil]
      dsimp only
      rw [Nat.add_zero, Nat.add_zero, bracketsFrom, if_pos h.lt_stop, h.byteAt_lead,
        if_neg (Nat.not_lt_of_le hdims), h.peek_lead]
      dsimp only
      rw [if_neg hlead]
      rfl

/-- A name stands in front of whatever ends it. -/
theorem name {pass : Char → Bool} (hpass : ∀ d, 128 ≤ d.toNat → pass d = true)
    (h : Stands s pos cs stop) :
    let stem := cs.takeWhile pass
    Stands s pos stem (pos + byteLength stem) ∧
      Stands s (pos + byteLength stem) (cs.dropWhile pass) stop ∧
      scan s pass stop pos = .ok (pos + byteLength stem) := by
  intro stem
  have hsplit : Stands s pos (stem ++ cs.dropWhile pass) stop := by
    rwa [List.takeWhile_append_dropWhile]
  exact ⟨hsplit.left, hsplit.right, h.scan_eq hpass⟩

end Stands

/-! Readings side by side. -/

@[simp] theorem ok_bind {α β : Type} (a : α) (f : α → Reading β) :
    ((.ok a : Reading α) >>= f) = f a := rfl

/-- Reading by positions does what reading by characters does: it finds what corresponds, or it is
refused with the same error, which is located in front of an end. -/
inductive Matches {α β : Type} (s : String) (stop : Nat) (R : α → β → Prop) :
    Except SignatureError α → Reading β → Prop where
  | ok {a : α} {b : β} (h : R a b) : Matches s stop R (.ok a) (.ok b)
  | refused {e : SignatureError} (h : Located s stop e) :
    Matches s stop R (.error e) (.error (.refused e))

/-- A type was found with the position behind it, where the rest of the input stands. -/
structure Behind (s : String) (pos stop : Nat) {cs : List Char} (r : Resolved cs)
    (found : TypeTree × Nat) : Prop where
  found : found = (r.tree, r.next)
  advances : pos < r.next
  rest : Stands s r.next r.rest stop

abbrev Tracks (s : String) (pos stop : Nat) {cs : List Char} (x : Resolution cs)
    (y : Reading (TypeTree × Nat)) : Prop :=
  Matches s stop (Behind s pos stop) x y

/-- Resolving by positions keeps in step wherever characters stand in a text. -/
def InStep (s : String) (one : Nat → (cs : List Char) → Resolution cs)
    (byte : Nat → Nat → Reading (TypeTree × Nat)) : Prop :=
  ∀ pos cs stop, Stands s pos cs stop → Tracks s pos stop (one pos cs) (byte pos stop)

variable {one : Nat → (cs : List Char) → Resolution cs}
  {byte : Nat → Nat → Reading (TypeTree × Nat)}

theorem typesIn_tracks (hone : InStep s one byte) (h : Stands s pos cs stop)
    (done : List TypeTree) :
    Matches s stop Eq (typesIn one pos done cs) (Bytewise.typesIn byte stop done pos) := by
  fun_induction typesIn one pos done cs with
  | case1 pos done =>
    rw [Bytewise.typesIn, if_neg h.not_lt_stop]
    exact .ok rfl
  | case2 pos done c cs e he =>
    have hfirst := hone pos (c :: cs) stop h
    rw [he] at hfirst
    rw [Bytewise.typesIn, if_pos h.lt_stop]
    generalize byte pos stop = found at hfirst ⊢
    cases hfirst with
    | refused hlocated => exact .refused hlocated
  | case3 pos done c cs r hr ih =>
    have hfirst := hone pos (c :: cs) stop h
    rw [hr] at hfirst
    rw [Bytewise.typesIn, if_pos h.lt_stop]
    generalize byte pos stop = found at hfirst ⊢
    cases hfirst with
    | ok hbehind =>
      rw [hbehind.found]
      simp only [if_pos hbehind.advances]
      exact ih hbehind.rest

theorem isVariableNameChar_high (d : Char) (h : 128 ≤ d.toNat) : isVariableNameChar d = true := by
  apply isVariableNameChar_iff.mpr
  intro hmark
  have hascii : ∀ m ∈ TypeTree.variableMarks, m.toNat < 128 := by simp [TypeTree.variableMarks]
  exact absurd h (Nat.not_le_of_lt (hascii d hmark))

theorem variableAt_tracks (h : Stands s pos ('T' :: cs) stop) :
    Tracks s pos stop (variableAt (pos + 1) cs) (Bytewise.variableAt s pos stop) := by
  obtain ⟨hname, hbehind, hscan⟩ := (h.tail_ascii (by decide)).name isVariableNameChar_high
  have hempty : pos + 1 + byteLength (cs.takeWhile isVariableNameChar) = pos + 1 ↔
      cs.takeWhile isVariableNameChar = [] := add_byteLength_eq
  unfold variableAt Bytewise.variableAt
  simp only [hscan, ok_bind]
  split
  · next rest hrest =>
    rw [hrest] at hbehind
    rw [hbehind.peek_ascii (by decide)]
    simp only [ok_bind, ne_eq, not_true_eq_false, if_false, hempty, List.isEmpty_iff]
    split
    · exact .refused (.at rfl (Nat.le_trans hname.pos_le hbehind.pos_le) rfl)
    · rw [hname.part_eq]
      refine .ok ⟨rfl, ?_, hbehind.tail_ascii (by decide)⟩
      show pos < pos + 1 + _ + 1
      omega
  · next hother =>
    rw [hbehind.peek_refused]
    · exact .refused hbehind.unexpected
    · intro c rest hrest
      exact if_pos (lead_ne (by decide) hother hrest)

theorem isClassNameChar_high (d : Char) (h : 128 ≤ d.toNat) : isClassNameChar d = true := by
  have hplain (m : Char) (hm : m.toNat < 128) : d ≠ m := by
    rintro rfl
    omega
  simp [isClassNameChar, hplain]

theorem ofLetter?_leadByte (c : Char) : Primitive.ofLetter? (leadByte c) = Primitive.ofLetter? c := by
  have hletter (p : Primitive) : p.letter.toNat < 128 := by cases p <;> decide
  apply Option.ext
  intro p
  constructor
  · intro h
    have hlead := Primitive.letter_of_ofLetter? h
    rw [(leadByte_eq_iff (hletter p)).mp hlead.symm, Primitive.ofLetter?_letter]
  · intro h
    have hc := Primitive.letter_of_ofLetter? h
    rw [← hc, leadByte_ascii (hletter p), Primitive.ofLetter?_letter]

/-- What is found behind a mark is found with the mark in front of it. -/
theorem Tracks.marked {resolve outer : (cs : List Char) → Resolution cs} {start : Nat}
    {y : Reading (TypeTree × Nat)} (hle : pos ≤ start) (h : Tracks s start stop (resolve cs) y)
    (houter : outer (c :: cs) =
      match resolve cs with
      | .error e => .error e
      | .ok r => .ok ⟨r.tree, r.next, r.rest, Nat.lt_succ_of_lt r.shorter⟩) :
    Tracks s pos stop (outer (c :: cs)) y := by
  rw [houter]
  generalize resolve cs = x at h
  cases h with
  | refused hlocated => exact .refused hlocated
  | ok hbehind =>
    exact .ok ⟨hbehind.found, Nat.lt_of_le_of_lt hle hbehind.advances, hbehind.rest⟩

theorem bracket_opened (h : Stands s pos ('<' :: cs) stop) :
    closing s pos stop = closes pos (pos + 1) (splitClosing 1 cs) := by
  have hlead : leadByte '<' = '<' := by decide
  rw [closing, if_pos ⟨h.pos_le, h.stop_le⟩, closingFrom, if_pos h.lt_stop, h.byteAt_lead, hlead]
  dsimp only
  rw [if_pos rfl, (h.tail_ascii (by decide)).closingFrom_eq pos Nat.one_pos]

/-- The arguments stand between their brackets. -/
theorem bracket_closed {arguments after : List Char} (h : Stands s pos ('<' :: cs) stop)
    (hclose : splitClosing 1 cs = some (arguments, after)) :
    let close := pos + 1 + byteLength arguments
    closing s pos stop = .ok close ∧ Stands s (pos + 1) arguments close ∧ close ≤ stop ∧
      Stands s (close + 1) after stop := by
  have hinside := h.tail_ascii (by decide)
  rw [splitClosing_text hclose] at hinside
  refine ⟨?_, hinside.left, hinside.right.pos_le, hinside.right.tail_ascii (by decide)⟩
  rw [bracket_opened h, hclose]
  rfl

/-- What stands behind the arguments ends the class, or is refused. -/
theorem classEnd_eq (t : TypeTree) {close : Nat} {after : List Char}
    (h : Stands s (close + 1) after stop) :
    (∀ rest, after = ';' :: rest → Bytewise.classEnd s t close stop = .ok (t, close + 2)) ∧
    (∀ rest, after = '.' :: rest → Bytewise.classEnd s t close stop =
      .error (.refused (.unsupported .innerClass (close + 1)))) ∧
    ((∀ rest, ¬ after = ';' :: rest) → (∀ rest, ¬ after = '.' :: rest) →
      Bytewise.classEnd s t close stop = .error (.refused (unexpected (close + 1) after))) := by
  unfold Bytewise.classEnd
  refine ⟨?_, ?_, fun hend hdot => ?_⟩
  · rintro rest rfl
    rw [h.peek_ascii (by decide)]
    rfl
  · rintro rest rfl
    rw [h.peek_ascii (by decide)]
    rfl
  · apply h.peek_refused
    intro c rest hrest
    rw [if_neg (lead_ne (by decide) hend hrest), if_neg (lead_ne (by decide) hdot hrest)]

theorem classAt_tracks (hone : InStep s one byte) (h : Stands s pos ('L' :: cs) stop) :
    Tracks s pos stop (classAt one (pos + 1) cs) (Bytewise.classAt s byte pos stop) := by
  obtain ⟨hname, hbehind, hscan⟩ := (h.tail_ascii (by decide)).name isClassNameChar_high
  have hempty : pos + 1 + byteLength (cs.takeWhile isClassNameChar) = pos + 1 ↔
      cs.takeWhile isClassNameChar = [] := add_byteLength_eq
  unfold classAt Bytewise.classAt
  simp only [hscan, ok_bind]
  generalize hi : pos + 1 + byteLength (cs.takeWhile isClassNameChar) = i at *
  have hstart : pos + 1 ≤ i := hname.pos_le
  have hemptyName : Located s stop (.emptyName (pos + 1)) :=
    .at rfl (Nat.le_trans hstart hbehind.pos_le) rfl
  split
  · next rest hrest =>
    rw [hrest] at hbehind
    rw [hbehind.peek_ascii (by decide)]
    simp only [ok_bind, ne_eq, not_true_eq_false, false_and, if_false, hempty, List.isEmpty_iff,
      (by decide : ¬ ';' = '.')]
    split
    · exact .refused hemptyName
    · rw [hname.part_eq]
      refine .ok ⟨rfl, ?_, hbehind.tail_ascii (by decide)⟩
      show pos < i + 1
      omega
  · next rest hrest =>
    rw [hrest] at hbehind
    rw [hbehind.peek_ascii (by decide)]
    simp only [ok_bind, ne_eq, not_true_eq_false, and_false, if_false, hempty, List.isEmpty_iff,
      (by decide : ¬ '<' = '.'), (by decide : ¬ '<' = ';')]
    split
    · exact .refused hemptyName
    rw [hname.part_eq, ok_bind]
    split
    · next hclose =>
      rw [bracket_opened hbehind, hclose]
      exact .refused (.at rfl hbehind.pos_le rfl)
    · next after hclose =>
      rw [bracket_opened hbehind, hclose]
      simp only [closes, byteLength_nil, Nat.add_zero, ok_bind, if_true]
      exact .refused (.at rfl hbehind.pos_le rfl)
    · next arguments after hsome hclose =>
      obtain ⟨hclosing, hinside, hclosed, hafter⟩ := bracket_closed hbehind hclose
      have htypes := typesIn_tracks hone hinside []
      rw [hclosing, ok_bind, if_neg (mt add_byteLength_eq.mp hsome)]
      generalize Bytewise.typesIn byte (i + 1 + byteLength arguments) [] (i + 1) = found
        at htypes ⊢
      split
      · next e he =>
        rw [he] at htypes
        cases htypes with
        | refused hlocated => exact .refused (hlocated.mono hclosed)
      · next args hargs =>
        rw [hargs] at htypes
        cases htypes with
        | ok heq =>
          subst heq
          obtain ⟨hends, hinner, hrefused⟩ := classEnd_eq
            { TypeTree.ofClass (TypeTree.dotted (cs.takeWhile isClassNameChar)) with args := args }
            hafter
          rw [ok_bind]
          split
          · next rest _ _ =>
            rw [hends rest rfl]
            refine .ok ⟨rfl, ?_, hafter.tail_ascii (by decide)⟩
            show pos < i + 1 + byteLength arguments + 2
            omega
          · next rest _ _ =>
            rw [hinner rest rfl]
            exact .refused (.at rfl hafter.pos_le rfl)
          · next hend hdot =>
            rw [hrefused]
            · exact .refused hafter.unexpected
            · exact fun rest heq => hend rest (heq ▸ hclose) heq (proof_irrel_heq _ _)
            · exact fun rest heq => hdot rest (heq ▸ hclose) heq (proof_irrel_heq _ _)
  · next rest hrest =>
    rw [hrest] at hbehind
    rw [hbehind.peek_ascii (by decide)]
    simp only [ok_bind, if_true]
    exact .refused (.at rfl hbehind.pos_le rfl)
  · next hend hopen hdot =>
    rw [hbehind.peek_refused]
    · exact .refused hbehind.unexpected
    · intro c rest hrest
      rw [if_neg (lead_ne (by decide) hdot hrest),
        if_pos ⟨lead_ne (by decide) hend hrest, lead_ne (by decide) hopen hrest⟩]

theorem elementAt_tracks (hone : InStep s one byte) (h : Stands s pos cs stop) :
    Tracks s pos stop (elementAt one pos cs) (Bytewise.elementAt s byte pos stop) := by
  unfold Bytewise.elementAt
  cases cs with
  | nil =>
    rw [h.peek_end]
    exact .refused h.unexpected
  | cons c rest =>
    by_cases hclass : c = 'L'
    · subst hclass
      rw [h.peek_ascii (by decide)]
      exact (classAt_tracks hone h).marked (Nat.le_refl pos) rfl
    by_cases hvariable : c = 'T'
    · subst hvariable
      rw [h.peek_ascii (by decide)]
      exact (variableAt_tracks h).marked (Nat.le_refl pos) rfl
    by_cases hvoid : c = 'V'
    · subst hvoid
      rw [h.peek_ascii (by decide)]
      exact .refused (.at rfl h.pos_le rfl)
    have hlead {m : Char} (hm : m.toNat < 128) (hne : ¬ c = m) : ¬ leadByte c = m := by
      rwa [leadByte_eq_iff hm]
    rw [h.peek_lead, ok_bind, if_neg (hlead (by decide) hclass),
      if_neg (hlead (by decide) hvariable), if_neg (hlead (by decide) hvoid), ofLetter?_leadByte,
      elementAt]
    · cases hp : Primitive.ofLetter? c with
      | none =>
        rw [h.refuse_eq]
        exact .refused h.unexpected
      | some p =>
        have hascii : c.toNat < 128 := by
          rw [← Primitive.letter_of_ofLetter? hp]
          cases p <;> decide
        exact .ok ⟨rfl, Nat.lt_succ_self pos, h.tail_ascii hascii⟩
    · exact hclass
    · exact hvariable
    · exact hvoid

/-- A reading that would end where the input does need not be asked about the end before. -/
theorem peeked_bind {α β : Type} {a : α} {f : α → Reading β}
    (hf : ∀ e, peek s pos stop = .error e → f a = .error e) :
    (((peek s pos stop).map fun _ => a) >>= f) = f a := by
  cases hpeek : peek s pos stop with
  | error e => exact (hf e hpeek).symm
  | ok c => rfl

theorem arrayAt_tracks (hone : InStep s one byte) (bound : Bound) (h : Stands s pos cs stop) :
    Tracks s pos stop (arrayAt one bound pos cs) (Bytewise.arrayAt s byte bound pos stop) := by
  have hbehind := h.behind_brackets
  have helement := elementAt_tracks hone hbehind
  unfold arrayAt Bytewise.arrayAt
  dsimp only
  rw [h.bracketsFrom_eq (Nat.zero_le 255), Nat.zero_add]
  generalize (cs.takeWhile (· = '[')).length = dims at *
  split
  · next hmany =>
    have hroom := hbehind.pos_le
    exact .refused (.at rfl (by omega) rfl)
  · rw [peeked_bind]
    · dsimp only
      generalize Bytewise.elementAt s byte (pos + dims) stop = found at helement ⊢
      split
      · next herror =>
        rw [herror] at helement
        cases helement with
        | refused hlocated => exact .refused hlocated
      · next hok =>
        rw [hok] at helement
        cases helement with
        | ok hfound =>
          rw [hfound.found]
          exact .ok ⟨rfl, Nat.lt_of_le_of_lt (Nat.le_add_right pos dims) hfound.advances,
            hfound.rest⟩
    · intro e he
      dsimp only
      rw [Bytewise.elementAt, he]
      rfl

theorem typeAt_tracks (levels : Nat) : InStep s (typeAt levels) (Bytewise.typeAt s levels) := by
  induction levels with
  | zero =>
    intro pos cs stop h
    exact .refused (.nowhere rfl)
  | succ levels ih =>
    intro pos cs stop h
    unfold Bytewise.typeAt
    cases cs with
    | nil =>
      rw [h.peek_end]
      exact .refused h.unexpected
    | cons c rest =>
      by_cases hstar : c = '*'
      · subst hstar
        rw [h.peek_ascii (by decide)]
        exact .ok ⟨rfl, Nat.lt_succ_self pos, h.tail_ascii (by decide)⟩
      by_cases hplus : c = '+'
      · subst hplus
        rw [h.peek_ascii (by decide)]
        exact (arrayAt_tracks ih .upper (h.tail_ascii (by decide))).marked (Nat.le_succ pos) rfl
      by_cases hminus : c = '-'
      · subst hminus
        rw [h.peek_ascii (by decide)]
        exact (arrayAt_tracks ih .lower (h.tail_ascii (by decide))).marked (Nat.le_succ pos) rfl
      have hlead {m : Char} (hm : m.toNat < 128) (hne : ¬ c = m) : ¬ leadByte c = m := by
        rwa [leadByte_eq_iff hm]
      rw [h.peek_lead, ok_bind, if_neg (hlead (by decide) hstar),
        if_neg (hlead (by decide) hplus), if_neg (hlead (by decide) hminus), typeAt]
      · exact arrayAt_tracks ih .exact h
      · exact List.cons_ne_nil c rest
      · exact fun _ heq => hstar (List.cons.inj heq).1
      · exact fun _ heq => hplus (List.cons.inj heq).1
      · exact fun _ heq => hminus (List.cons.inj heq).1

end EntityForge.Signature
