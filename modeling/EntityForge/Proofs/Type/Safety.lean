import EntityForge.Proofs.Checked
import EntityForge.Proofs.Type.MethodTypes
import EntityForge.Proofs.Type.Tracking

/-!
Resolving is safe. Nothing that must not happen where a text is read by positions ever does; every
type takes at least one byte of those it may take; and every error is about a position in the text,
where it shows the byte that stands there.
-/

namespace EntityForge.Signature

open Bytewise (byteAt peek refuse part scan bracketsFrom closingFrom closing)

variable {s : String} {pos stop : Nat}

/-! How far a reader gets. -/

/-- A reader stops behind where it started, and not behind the end. -/
def Advances (byte : Nat → Nat → Reading (TypeTree × Nat)) : Prop :=
  ∀ pos stop t next, byte pos stop = .ok (t, next) → pos < next ∧ next ≤ stop

theorem lt_of_peek {c : Char} (h : peek s pos stop = .ok c) : pos < stop := by
  unfold peek at h
  split at h
  · assumption
  · cases h

theorem refuse_not_ok {α : Type} {a : α} : refuse s pos ≠ .ok a := by
  intro h
  obtain ⟨_, _, herror⟩ := Checked.bind_eq_ok.mp h
  cases herror

theorem le_of_scan {pass : Char → Bool} {i : Nat} (h : scan s pass stop pos = .ok i) : pos ≤ i := by
  fun_induction scan s pass stop pos with
  | case1 => cases h
  | case2 pos _ c _ _ ih => exact Nat.le_of_succ_le (ih h)
  | case3 => cases h; exact Nat.le_refl _
  | case4 => cases h; exact Nat.le_refl _

theorem le_of_closingFrom {opened depth close : Nat}
    (h : closingFrom s opened stop depth pos = .ok close) : pos ≤ close := by
  fun_induction closingFrom s opened stop depth pos with
  | case1 => cases h
  | case2 _ _ _ _ ih => exact Nat.le_of_succ_le (ih h)
  | case3 => cases h
  | case4 => cases h; exact Nat.le_refl _
  | case5 _ _ _ _ _ _ _ ih => exact Nat.le_of_succ_le (ih h)
  | case6 _ _ _ _ _ _ _ ih => exact Nat.le_of_succ_le (ih h)
  | case7 => cases h

theorem le_of_closing {opened close : Nat} (h : closing s opened stop = .ok close) :
    opened ≤ close := by
  unfold closing at h
  split at h
  · exact le_of_closingFrom h
  · cases h

theorem le_of_brackets {dims more next : Nat}
    (h : bracketsFrom s stop dims pos = .ok (more, next)) : pos ≤ next := by
  fun_induction bracketsFrom s stop dims pos with
  | case1 => cases h
  | case2 => cases h
  | case3 _ _ _ _ _ ih => exact Nat.le_of_succ_le (ih h)
  | case4 => cases h; exact Nat.le_refl _
  | case5 => cases h

theorem variableAt_advances : Advances (Bytewise.variableAt s) := by
  intro pos stop t next h
  obtain ⟨i, hscan, h⟩ := Checked.bind_eq_ok.mp h
  obtain ⟨mark, hmark, h⟩ := Checked.bind_eq_ok.mp h
  have hstart := le_of_scan hscan
  have hend := lt_of_peek hmark
  split at h
  · exact absurd h refuse_not_ok
  · split at h
    · cases h
    · obtain ⟨name, _, h⟩ := Checked.bind_eq_ok.mp h
      cases h
      omega

theorem classAt_advances (inner : Nat → Nat → Reading (TypeTree × Nat)) :
    Advances (Bytewise.classAt s inner) := by
  intro pos stop t next h
  obtain ⟨i, hscan, h⟩ := Checked.bind_eq_ok.mp h
  obtain ⟨mark, hmark, h⟩ := Checked.bind_eq_ok.mp h
  have hstart := le_of_scan hscan
  have hend := lt_of_peek hmark
  split at h
  · cases h
  split at h
  · exact absurd h refuse_not_ok
  split at h
  · cases h
  obtain ⟨name, _, h⟩ := Checked.bind_eq_ok.mp h
  split at h
  · cases h
    omega
  obtain ⟨close, hclose, h⟩ := Checked.bind_eq_ok.mp h
  have hclosed := le_of_closing hclose
  split at h
  · cases h
  obtain ⟨args, _, h⟩ := Checked.bind_eq_ok.mp h
  obtain ⟨behind, hbehind, h⟩ := Checked.bind_eq_ok.mp h
  have hlast := lt_of_peek hbehind
  split at h
  · cases h
    omega
  split at h
  · cases h
  · exact absurd h refuse_not_ok

theorem elementAt_advances (inner : Nat → Nat → Reading (TypeTree × Nat)) :
    Advances (Bytewise.elementAt s inner) := by
  intro pos stop t next h
  obtain ⟨code, hcode, h⟩ := Checked.bind_eq_ok.mp h
  have hfirst := lt_of_peek hcode
  split at h
  · exact classAt_advances inner pos stop t next h
  split at h
  · exact variableAt_advances pos stop t next h
  split at h
  · cases h
  split at h
  · cases h
    omega
  · exact absurd h refuse_not_ok

theorem arrayAt_advances (inner : Nat → Nat → Reading (TypeTree × Nat)) (bound : Bound) :
    Advances (Bytewise.arrayAt s inner bound) := by
  intro pos stop t next h
  obtain ⟨⟨dims, start⟩, hcount, h⟩ := Checked.bind_eq_ok.mp h
  obtain ⟨⟨element, last⟩, helement, h⟩ := Checked.bind_eq_ok.mp h
  have hstart := le_of_brackets hcount
  obtain ⟨hfirst, hlast⟩ := elementAt_advances inner start stop element last helement
  cases h
  exact ⟨Nat.lt_of_le_of_lt hstart hfirst, hlast⟩

/-- One type takes at least one byte, and none from the end on, wherever it is read. -/
theorem typeAt_advances (s : String) (levels : Nat) : Advances (Bytewise.typeAt s levels) := by
  intro pos stop t next h
  cases levels with
  | zero => cases h
  | succ levels =>
    obtain ⟨mark, hmark, h⟩ := Checked.bind_eq_ok.mp h
    have hfirst := lt_of_peek hmark
    have hbound {bound : Bound}
        (h : Bytewise.arrayAt s (Bytewise.typeAt s levels) bound (pos + 1) stop = .ok (t, next)) :
        pos < next ∧ next ≤ stop := by
      obtain ⟨hstart, hlast⟩ := arrayAt_advances _ _ _ _ _ _ h
      exact ⟨Nat.lt_of_succ_lt hstart, hlast⟩
    split at h
    · cases h
      omega
    split at h
    · exact hbound h
    split at h
    · exact hbound h
    · exact arrayAt_advances _ _ _ _ _ _ h

/-! Whole texts. -/

theorem byte?_end (h : s.utf8ByteSize ≤ pos) : byte? s pos = none := by
  have hnone : s.toUTF8.data[pos]? = none := Array.getElem?_eq_none h
  rw [byte?, hnone, Option.map_none]

theorem parseTypes_matches (s : String) :
    Matches s s.utf8ByteSize Eq (parseTypes s) (Bytewise.parseTypes s) := by
  unfold parseTypes Bytewise.parseTypes
  by_cases hempty : s.utf8ByteSize = 0
  · rw [if_pos (by simpa using hempty), if_pos hempty]
    exact .refused (.nowhere rfl)
  · rw [if_neg (by simpa using hempty), if_neg hempty]
    exact typesIn_tracks (typeAt_tracks _) (.whole s) []

theorem parseType_matches (s : String) :
    Matches s s.utf8ByteSize Eq (parseType s) (Bytewise.parseType s) := by
  have htypes := parseTypes_matches s
  unfold parseType Bytewise.parseType
  generalize parseTypes s = x at htypes
  generalize Bytewise.parseTypes s = y at htypes
  cases htypes with
  | refused hlocated => exact .refused hlocated
  | @ok ts _ heq =>
    subst heq
    rcases ts with _ | ⟨t, _ | ⟨u, ts⟩⟩
    · exact .refused (.nowhere rfl)
    · exact .ok rfl
    · exact .refused (.nowhere rfl)

/-- The end of a method signature, or a throws clause in front of it. -/
theorem throws_matches (m : MethodType) {cs : List Char} (h : Stands s pos cs s.utf8ByteSize) :
    Matches s s.utf8ByteSize Eq
      (match cs with
      | [] | '^' :: _ => .ok m
      | rest => .error (unexpected pos rest))
      (if pos < s.utf8ByteSize then do
        let behind ← byteAt s pos
        if behind = '^' then return m else refuse s pos
      else return m) := by
  split
  · rw [if_neg h.not_lt_stop]
    exact .ok rfl
  · rw [if_pos h.lt_stop, h.byteAt_lead, leadByte_ascii (by decide)]
    exact .ok rfl
  · next hend hthrows =>
    cases cs with
    | nil => exact absurd rfl hend
    | cons c rest =>
      rw [if_pos h.lt_stop, h.byteAt_lead, ok_bind, if_neg (lead_ne (by decide) hthrows rfl),
        h.refuse_eq]
      exact .refused h.unexpected

theorem resultFrom_matches (params : List TypeTree) {close : Nat} {cs : List Char}
    (h : Stands s (close + 1) cs s.utf8ByteSize) :
    Matches s s.utf8ByteSize Eq (MethodType.resultAt params (close + 1) cs)
      (Bytewise.resultFrom s params close) := by
  unfold Bytewise.resultFrom
  by_cases hvoid : ∃ rest, cs = 'V' :: rest
  · obtain ⟨rest, rfl⟩ := hvoid
    rw [h.peek_ascii (by decide)]
    exact throws_matches ⟨params, none⟩ (h.tail_ascii (by decide))
  · have hplain : ∀ rest, ¬ cs = 'V' :: rest := fun rest heq => hvoid ⟨rest, heq⟩
    have htype := typeAt_tracks (maxDepth + 1) (close + 1) cs s.utf8ByteSize h
    cases cs with
    | nil =>
      rw [h.peek_end]
      exact .refused h.unexpected
    | cons c rest =>
      rw [h.peek_lead, ok_bind, if_neg (lead_ne (by decide) hplain rfl), Bytewise.outermost]
      unfold MethodType.resultAt outermost
      dsimp only
      generalize Bytewise.typeAt s (maxDepth + 1) (close + 1) s.utf8ByteSize = found at htype ⊢
      split
      · next heq => exact absurd heq (hplain _)
      split
      · next herror =>
        rw [herror] at htype
        cases htype with
        | refused hlocated => exact .refused hlocated
      · next r hok =>
        rw [hok] at htype
        cases htype with
        | ok hfound =>
          rw [hfound.found]
          exact throws_matches ⟨params, some r.tree⟩ hfound.rest

/-- Parameters are read up to the first closing parenthesis, which only a whole character can be. -/
theorem parameters_match {cs : List Char} (hs : s.toList = '(' :: cs)
    (h : Stands s 0 ('(' :: cs) s.utf8ByteSize) :
    Matches s s.utf8ByteSize Eq (MethodType.parse s) (do
      let close ← scan s (· ≠ ')') s.utf8ByteSize 0
      if close < s.utf8ByteSize then
        let params ← Bytewise.typesIn (Bytewise.outermost s) close [] 1
        Bytewise.resultFrom s params close
      else .error (.refused (.unexpectedEnd s.utf8ByteSize))) := by
  have hpass : ∀ d : Char, 128 ≤ d.toNat → decide (d ≠ ')') = true := by
    intro d hd
    apply decide_eq_true
    rintro rfl
    exact absurd hd (by decide)
  obtain ⟨hinside, hbehind, -⟩ := (h.tail_ascii (by decide)).name hpass
  have hscan := h.scan_eq hpass
  have hsplit := List.takeWhile_append_dropWhile (p := fun c => decide (c ≠ ')')) (l := cs)
  have hsize := h.stop_eq
  rw [List.takeWhile_cons_of_pos (by decide), byteLength_cons, utf8Size_ascii (by decide),
    Nat.zero_add] at hscan
  rw [byteLength_cons, utf8Size_ascii (by decide), Nat.zero_add] at hsize
  rw [Nat.zero_add] at hinside hbehind
  rw [hscan, ok_bind]
  cases hdrop : cs.dropWhile (fun c => decide (c ≠ ')')) with
  | nil =>
    have hparse : MethodType.parse s = .error (.unexpectedEnd (1 + byteLength cs)) := by
      simp only [MethodType.parse, hs, hdrop]
    rw [hdrop] at hbehind
    rw [hparse, if_neg hbehind.not_lt_stop, hsize]
    exact .refused (.at rfl (Nat.le_refl _) rfl)
  | cons c rest =>
    have hclose := MethodType.closing_of_dropWhile hdrop
    subst hclose
    rw [hdrop] at hbehind hsplit
    have hparse := MethodType.parse_cut (hs.trans (congrArg _ hsplit.symm))
      (fun hparen => by simpa using List.mem_takeWhile_imp hparen)
    have htypes := typesIn_tracks (typeAt_tracks (maxDepth + 1)) hinside []
    have hresult := hbehind.tail_ascii (by decide)
    generalize cs.takeWhile (fun c => decide (c ≠ ')')) = inside at *
    rw [hparse, if_pos hbehind.lt_stop, Bytewise.outermost]
    unfold outermost
    generalize Bytewise.typesIn (Bytewise.typeAt s (maxDepth + 1)) (1 + byteLength inside) [] 1 =
      found at htypes ⊢
    split
    · next herror =>
      rw [herror] at htypes
      cases htypes with
      | refused hlocated => exact .refused (hlocated.mono hbehind.pos_le)
    · next params hok =>
      rw [hok] at htypes
      cases htypes with
      | ok heq =>
        subst heq
        have hpos : 2 + byteLength inside = 1 + byteLength inside + 1 := by omega
        rw [ok_bind, hpos]
        exact resultFrom_matches params hresult

theorem parseMethod_matches (s : String) :
    Matches s s.utf8ByteSize Eq (MethodType.parse s) (Bytewise.parseMethod s) := by
  have hwhole := Stands.whole s
  unfold Bytewise.parseMethod
  cases hs : s.toList with
  | nil =>
    rw [hs] at hwhole
    rw [MethodType.parse, hs, byte?_end (Nat.le_of_not_lt hwhole.not_lt_stop)]
    exact .refused (.nowhere rfl)
  | cons c cs =>
    rw [hs] at hwhole
    rw [hwhole.byte?_lead]
    dsimp only
    by_cases hparameters : c = '<'
    · subst hparameters
      rw [MethodType.parse, hs, leadByte_ascii (by decide), if_pos rfl]
      exact .refused (.at rfl hwhole.pos_le rfl)
    by_cases hopen : c = '('
    · subst hopen
      rw [leadByte_ascii (by decide), if_neg (by decide), if_pos rfl]
      exact parameters_match hs hwhole
    · have hlead {m : Char} (hm : m.toNat < 128) (hne : ¬ c = m) : ¬ leadByte c = m := by
        rwa [leadByte_eq_iff hm]
      have hparse : MethodType.parse s = .error (unexpected 0 (c :: cs)) := by
        rw [MethodType.parse, hs]
        split
        · next heq => cases heq
        · next heq => exact absurd (List.cons.inj heq).1 hparameters
        · next heq => exact absurd (List.cons.inj heq).1 hopen
        · rfl
      rw [hparse, if_neg (hlead (by decide) hparameters), if_neg (hlead (by decide) hopen),
        hwhole.refuse_eq]
      exact .refused hwhole.unexpected

/-- The same answers, with nothing but refusals for errors. -/
theorem Matches.eq_mapError {α : Type} {x : Except SignatureError α} {y : Reading α}
    (h : Matches s stop Eq x y) : y = x.mapError .refused := by
  cases h with
  | ok heq => rw [heq, Except.mapError]
  | refused _ => rfl

theorem Matches.located {α β : Type} {R : α → β → Prop} {x : Except SignatureError α}
    {y : Reading β} (h : Matches s stop R x y) {e : SignatureError} (hx : x = .error e) :
    Located s stop e := by
  subst hx
  cases h with
  | refused hlocated => exact hlocated

theorem typeAt_eq (levels : Nat) {cs : List Char} (h : Stands s pos cs stop) :
    Bytewise.typeAt s levels pos stop =
      ((typeAt levels pos cs).map fun r => (r.tree, r.next)).mapError .refused := by
  have htracks := typeAt_tracks levels pos cs stop h
  generalize typeAt levels pos cs = x at htracks ⊢
  generalize Bytewise.typeAt s levels pos stop = y at htracks ⊢
  cases htracks with
  | refused _ => rfl
  | ok hfound =>
    rw [hfound.found]
    rfl

/-- Reading a text by its bytes, with a check in front of every access, every cut and every count,
gives for every text what resolving it gives, and no fault: neither for the whole text, in any of
the three forms, nor for one type at any place. One type, wherever it is read, ends behind its start
and not behind its end. No error is about a position behind the text, and a character that was
unexpected is the byte at its position. -/
theorem parse_safe (s : String) :
    (Bytewise.parseTypes s = (parseTypes s).mapError .refused ∧
      Bytewise.parseType s = (parseType s).mapError .refused ∧
      Bytewise.parseMethod s = (MethodType.parse s).mapError .refused) ∧
    (∀ levels pos cs stop, Stands s pos cs stop →
      Bytewise.typeAt s levels pos stop =
        ((typeAt levels pos cs).map fun r => (r.tree, r.next)).mapError .refused) ∧
    (∀ levels pos stop t next, Bytewise.typeAt s levels pos stop = .ok (t, next) →
      pos < next ∧ next ≤ stop) ∧
    ∀ e, parseTypes s = .error e ∨ parseType s = .error e ∨ MethodType.parse s = .error e →
      (∀ pos, e.position? = some pos → pos ≤ s.utf8ByteSize) ∧
      ∀ c pos, e = .unexpectedChar c pos → pos < s.utf8ByteSize ∧ byte? s pos = some c := by
  have htypes := parseTypes_matches s
  have htype := parseType_matches s
  have hmethod := parseMethod_matches s
  refine ⟨⟨htypes.eq_mapError, htype.eq_mapError, hmethod.eq_mapError⟩, ?_, ?_, ?_⟩
  · exact fun levels _ _ _ hstands => typeAt_eq levels hstands
  · exact fun levels => typeAt_advances s levels
  · intro e he
    have hlocated : Located s s.utf8ByteSize e := by
      rcases he with he | he | he
      · exact htypes.located he
      · exact htype.located he
      · exact hmethod.located he
    exact ⟨hlocated.within, hlocated.shown⟩

/-- A type beyond ASCII, and behind it a character of two bytes, of which the first is refused. -/
theorem parse_safe_accented :
    let text := "[TÜ;ß"
    let found := ({ TypeTree.ofVariable "Ü" with dims := 1 }, 5)
    Bytewise.typeAt text 65 0 7 = .ok found ∧ 0 < 5 ∧ 5 ≤ 7 ∧
      parseTypes text = .error (.unexpectedChar 'Ã' 5) ∧
      Bytewise.parseTypes text = .error (.refused (.unexpectedChar 'Ã' 5)) ∧
      5 ≤ text.utf8ByteSize ∧ 5 < text.utf8ByteSize ∧ byte? text 5 = some 'Ã' := by
  intro text found
  obtain ⟨⟨htypes, -, -⟩, hplace, hadvances, herrors⟩ := parse_safe text
  have hfound : Bytewise.typeAt text 65 0 7 = .ok found := by
    rw [hplace 65 0 text.toList 7 (.whole text)]
    decide +kernel
  have herror : parseTypes text = .error (.unexpectedChar 'Ã' 5) := by decide +kernel
  obtain ⟨hwithin, hshown⟩ := herrors _ (.inl herror)
  obtain ⟨hfirst, hlast⟩ := hadvances _ _ _ _ _ hfound
  rw [herror] at htypes
  exact ⟨hfound, hfirst, hlast, herror, htypes, hwithin 5 rfl, hshown 'Ã' 5 rfl⟩

end EntityForge.Signature
