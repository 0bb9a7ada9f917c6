import EntityForge.Proofs.Bytes.Recovery

/-!
Reading by positions. A reader may be followed step by step through the whole byte string that it
reads from, with the position of the next byte and the end of the range that it may read. Bytes are
then taken from that string where they stand, and only if the range has them; a block is a range of
its own, from its first byte to its last, and its offsets are those of the whole string. What is
come to step by step is what the reader answers.
-/

namespace EntityForge

variable {ε α β : Type}

/-- The cursor at a position in front of the end of a range. -/
def Cursor.between (bytes : Bytes) (pos stop : Nat) : Cursor :=
  ⟨(bytes.drop pos).take (stop - pos), pos⟩

namespace Cursor

variable {bytes : Bytes} {pos stop : Nat}

theorem between_length (hstop : stop ≤ bytes.length) :
    (between bytes pos stop).rest.length = stop - pos := by
  rw [between, List.length_take, List.length_drop]
  omega

theorem between_take {n : Nat} (hn : pos + n ≤ stop) :
    (between bytes pos stop).rest.take n = (bytes.drop pos).take n := by
  rw [between, List.take_take, Nat.min_eq_left (by omega)]

theorem between_drop (n : Nat) :
    (between bytes pos stop).rest.drop n = (between bytes (pos + n) stop).rest := by
  rw [between, between, List.drop_take, List.drop_drop, Nat.sub_sub]

theorem between_head {b : UInt8} (hpos : pos < stop) (hb : bytes[pos]? = some b) :
    between bytes pos stop = ⟨b :: (between bytes (pos + 1) stop).rest, pos⟩ := by
  obtain ⟨hlt, rfl⟩ := List.getElem?_eq_some_iff.mp hb
  rw [between, between, List.drop_eq_getElem_cons hlt]
  have hlength : stop - pos = stop - (pos + 1) + 1 := by omega
  rw [hlength, List.take_succ_cons]

end Cursor

namespace Reader

/-- How reading fails: by a check, or since some bytes were wanted at a position and the range ended
before the last of them. -/
inductive Failure (ε : Type) where
  | check (e : ε)
  | missing (e : ε) (pos wanted stop : Nat)

def Failure.error : Failure ε → ε
  | check e | missing e .. => e

abbrev Outcome (ε α : Type) := Except (Failure ε) (α × Nat)

/-- What a reader answers that comes to an outcome. -/
def Outcome.answer (bytes : Bytes) (stop : Nat) (out : Outcome ε α) : Except ε (α × Cursor) :=
  (out.map fun (a, pos) => (a, .between bytes pos stop)).mapError Failure.error

/-- Reads values up to the end of the bytes, and all of the bytes. -/
def toEnd (step : Nat → UInt8 → Reader ε α) : Reader ε (List α) where
  run c := (untilEnd step c).map fun items => (items, ⟨[], c.offset + c.rest.length⟩)
  reaches {c _ _} h := by
    cases hitems : untilEnd step c with
    | error e =>
      rw [hitems] at h
      cases h
    | ok items =>
      rw [hitems] at h
      cases h
      exact ⟨List.nil_suffix, rfl⟩

/-- Reads a block of bytes, and values up to the end of the block. -/
def block (eof : Nat → ε) (length : Nat) (step : Nat → UInt8 → Reader ε α) :
    Reader ε (List α) := do
  let offset ← Reader.offset
  let bytes ← take eof length
  ofExcept (untilEnd step ⟨bytes, offset⟩)

/-- From a position of a byte string, in a range up to an end, a reader comes to an outcome. There is
a step for bytes only where the range has them, and the byte string has the range. -/
inductive Reads (bytes : Bytes) : {α : Type} → Reader ε α → (pos stop : Nat) → Outcome ε α → Prop
    where
  | pure {α : Type} (a : α) (pos stop : Nat) : Reads bytes (Pure.pure a) pos stop (.ok (a, pos))
  | fail {α : Type} (e : ε) (pos stop : Nat) :
    Reads bytes (Reader.fail e : Reader ε α) pos stop (.error (.check e))
  | offset (pos stop : Nat) : Reads bytes Reader.offset pos stop (.ok (pos, pos))
  | remaining (pos stop : Nat) : Reads bytes Reader.remaining pos stop (.ok (stop - pos, pos))
  | take (eof : Nat → ε) {n pos stop : Nat} (hn : pos + n ≤ stop) (hstop : stop ≤ bytes.length) :
    Reads bytes (Reader.take eof n) pos stop (.ok ((bytes.drop pos).take n, pos + n))
  | short (eof : Nat → ε) {n pos stop : Nat} (hpos : pos ≤ stop) (hstop : stop ≤ bytes.length)
    (hn : stop < pos + n) :
    Reads bytes (Reader.take eof n) pos stop (.error (.missing (eof pos) pos n stop))
  | bind {α β : Type} {r : Reader ε α} {f : α → Reader ε β} {pos middle stop : Nat} {a : α}
    {out : Outcome ε β} (hr : Reads bytes r pos stop (.ok (a, middle)))
    (hf : Reads bytes (f a) middle stop out) : Reads bytes (r >>= f) pos stop out
  | bind_error {α β : Type} {r : Reader ε α} (f : α → Reader ε β) {pos stop : Nat}
    {failure : Failure ε} (hr : Reads bytes r pos stop (.error failure)) :
    Reads bytes (r >>= f) pos stop (.error failure)
  | block {α : Type} (eof : Nat → ε) {length : Nat} {step : Nat → UInt8 → Reader ε α}
    {pos stop : Nat} {out : Outcome ε (List α)} (hlength : pos + length ≤ stop)
    (hstop : stop ≤ bytes.length) (h : Reads bytes (toEnd step) pos (pos + length) out) :
    Reads bytes (Reader.block eof length step) pos stop
      (out.map fun (items, _) => (items, pos + length))
  | last {α : Type} (step : Nat → UInt8 → Reader ε α) (stop : Nat) :
    Reads bytes (toEnd step) stop stop (.ok ([], stop))
  | more {α : Type} {step : Nat → UInt8 → Reader ε α} {pos stop : Nat} {b : UInt8}
    {out : Outcome ε (List α)} (hpos : pos < stop) (hstop : stop ≤ bytes.length)
    (hb : bytes[pos]? = some b)
    (h : Reads bytes (step pos b >>= fun a => toEnd step >>= fun items => Pure.pure (a :: items))
      (pos + 1) stop out) : Reads bytes (toEnd step) pos stop out

/-! What is come to is what is answered. -/

theorem eq_of_run {r r' : Reader ε α} (h : ∀ c, r.run c = r'.run c) : r = r' := by
  cases r
  cases r'
  congr
  exact funext h

/-- What is read behind a block. -/
theorem block_bind (eof : Nat → ε) (length : Nat) (step : Nat → UInt8 → Reader ε α)
    (f : List α → Reader ε β) :
    block eof length step >>= f = (do
      let offset ← Reader.offset
      let bytes ← take eof length
      let items ← ofExcept (untilEnd step ⟨bytes, offset⟩)
      f items) := by
  apply eq_of_run
  intro c
  have hoffset : (Reader.offset : Reader ε Nat).run c = .ok (c.offset, c) := rfl
  simp only [block, run_bind, hoffset]
  cases (take eof length).run c with
  | error e => rfl
  | ok p => rfl

/-- Values are read alike whatever was read before them. -/
theorem untilEndFrom_append (step : Nat → UInt8 → Reader ε α) (done before : List α) (c : Cursor) :
    untilEndFrom step (done ++ before) c =
      (untilEndFrom step done c).map (before.reverse ++ ·) := by
  fun_induction untilEndFrom step done c with
  | case1 done c hrest =>
    obtain ⟨rest, offset⟩ := c
    cases hrest
    rw [untilEndFrom]
    simp [Except.map]
  | case2 done c b rest hrest a d hread ih =>
    obtain ⟨_, offset⟩ := c
    cases hrest
    rw [untilEndFrom_ok hread, ← ih, List.cons_append]
  | case3 done c b rest hrest e hread =>
    obtain ⟨_, offset⟩ := c
    cases hrest
    rw [untilEndFrom_error hread]
    rfl

/-- The first value is read by a step, and the others after it. -/
theorem toEnd_cons (step : Nat → UInt8 → Reader ε α) (b : UInt8) (rest : Bytes) (offset : Nat) :
    (toEnd step).run ⟨b :: rest, offset⟩ =
      (step offset b >>= fun a => toEnd step >>= fun items => Pure.pure (a :: items)).run
        ⟨rest, offset + 1⟩ := by
  rw [run_bind]
  cases hread : (step offset b).run ⟨rest, offset + 1⟩ with
  | error e =>
    rw [toEnd]
    dsimp only
    rw [untilEnd, untilEndFrom_error hread]
    rfl
  | ok p =>
    obtain ⟨a, d⟩ := p
    have hoffset := ((step offset b).reaches hread).offset
    have hitems := untilEndFrom_append step [] [a] d
    rw [List.nil_append] at hitems
    dsimp only at hoffset ⊢
    rw [run_bind, toEnd]
    dsimp only
    rw [untilEnd, untilEndFrom_ok hread, hitems, untilEnd]
    cases untilEndFrom step [] d with
    | error e => rfl
    | ok items =>
      have hend : d.offset + d.rest.length = offset + (rest.length + 1) := by omega
      simp [Except.map, hend]
      rfl

namespace Reads

variable {bytes : Bytes} {r : Reader ε α} {pos stop : Nat} {out : Outcome ε α}

/-- A range is read from its first position on, and never behind its end. -/
theorem bounds (h : Reads bytes r pos stop out) (hpos : pos ≤ stop) :
    ∀ a next, out = .ok (a, next) → pos ≤ next ∧ next ≤ stop := by
  induction h with
  | pure | offset | remaining =>
    rintro a next ⟨⟩
    omega
  | fail | short => nofun
  | take eof hn _ =>
    rintro a next ⟨⟩
    omega
  | bind _ _ ihr ihf =>
    intro b next hout
    have hmiddle := ihr hpos _ _ rfl
    have hlast := ihf hmiddle.2 b next hout
    omega
  | bind_error => nofun
  | @block _ _ _ _ _ _ out hlength _ _ _ =>
    rintro items next hout
    cases out with
    | error failure => cases hout
    | ok p =>
      cases hout
      omega
  | last =>
    rintro items next ⟨⟩
    omega
  | more hlt _ _ _ ih =>
    intro items next hout
    have hnext := ih hlt items next hout
    omega

theorem run_take (eof : Nat → ε) {n : Nat} (hn : pos + n ≤ stop) (hstop : stop ≤ bytes.length) :
    (Reader.take eof n).run (.between bytes pos stop) =
      .ok ((bytes.drop pos).take n, .between bytes (pos + n) stop) := by
  rw [Reader.take]
  dsimp only
  rw [Cursor.between_take hn, Cursor.between_drop, if_pos]
  · rfl
  · rw [List.length_take, List.length_drop]
    omega

/-- A reader answers what it comes to. -/
theorem sound (h : Reads bytes r pos stop out) (hpos : pos ≤ stop) (hstop : stop ≤ bytes.length) :
    r.run (.between bytes pos stop) = Outcome.answer bytes stop out := by
  induction h with
  | pure | fail | offset => rfl
  | remaining =>
    rw [Reader.remaining]
    dsimp only
    rw [Cursor.between_length hstop]
    rfl
  | take eof hn _ => exact run_take eof hn hstop
  | short eof _ _ hn =>
    rw [Reader.take]
    dsimp only
    rw [if_neg]
    · rfl
    · rw [List.length_take, Cursor.between_length hstop]
      omega
  | bind hr _ ihr ihf =>
    obtain ⟨hfirst, hlast⟩ := hr.bounds hpos _ _ rfl
    rw [run_bind, ihr hpos hstop]
    exact ihf hlast hstop
  | bind_error f _ ih =>
    rw [run_bind, ih hpos hstop]
    rfl
  | @block _ eof length step pos stop out hlength _ _ ih =>
    have hinside := ih (Nat.le_add_right pos length) (Nat.le_trans hlength hstop)
    have hrange : Cursor.between bytes pos (pos + length) = ⟨(bytes.drop pos).take length, pos⟩ := by
      rw [Cursor.between, Nat.add_sub_cancel_left]
    have hoffset : (Reader.offset : Reader ε Nat).run (.between bytes pos stop) =
        .ok (pos, .between bytes pos stop) := rfl
    rw [hrange, toEnd] at hinside
    dsimp only at hinside
    rw [Reader.block, run_bind, hoffset]
    dsimp only
    rw [run_bind, run_take eof hlength hstop]
    dsimp only
    generalize untilEnd step ⟨(bytes.drop pos).take length, pos⟩ = answer at hinside ⊢
    rcases answer with e | items <;> rcases out with failure | ⟨items', last⟩
    · cases hinside
      rfl
    · cases hinside
    · cases hinside
    · rw [(Prod.mk.inj (Except.ok.inj hinside)).1]
      rfl
  | @last γ step stop =>
    have hempty : Cursor.between bytes stop stop = ⟨[], stop⟩ := by
      rw [Cursor.between, Nat.sub_self, List.take_zero]
    have hanswer : Outcome.answer (ε := ε) bytes stop (.ok (([] : List γ), stop)) =
        .ok ([], ⟨[], stop⟩) := by
      rw [← hempty]
      rfl
    rw [hempty, hanswer, toEnd]
    dsimp only
    rw [untilEnd, untilEndFrom]
    rfl
  | more hlt _ hb _ ih =>
    rw [Cursor.between_head hlt hb, toEnd_cons]
    exact ih hlt hstop

end Reads

end Reader

end EntityForge
