import EntityForge.Bytes.BigEndian
import EntityForge.Bytes.Reader

/-!
Reading back what was written. A word is the number that its bytes denote, and a text is what its
encoding denotes. A reader recovers a value from its bytes when, in front of any further bytes, it
takes exactly these bytes and answers the value; where the value is not admissible, it fails
instead. The rules below follow the ways in which readers are put together, so that a format is
recovered part by part. Where the only faults are those that checks find, which read nothing and do
not look at an offset, a reader fails exactly as its checks do; so two byte strings whose checks
agree are refused with the same error.
-/

namespace EntityForge

namespace BigEndian

theorem value_word16 (w : UInt16) : value (word16 w) = w.toNat := by
  have hlt := w.toNat_lt
  simp only [value, word16, List.foldl_cons, List.foldl_nil, UInt16.toNat_toUInt8,
    UInt16.toNat_shiftRight, Nat.shiftRight_eq_div_pow]
  simp
  omega

theorem value_word32 (w : UInt32) : value (word32 w) = w.toNat := by
  have hlt := w.toNat_lt
  simp only [value, word32, List.foldl_cons, List.foldl_nil, UInt32.toNat_toUInt8,
    UInt32.toNat_shiftRight, Nat.shiftRight_eq_div_pow]
  simp
  omega

theorem value_word64 (w : UInt64) : value (word64 w) = w.toNat := by
  have hlt := w.toNat_lt
  simp only [value, word64, List.foldl_cons, List.foldl_nil, UInt64.toNat_toUInt8,
    UInt64.toNat_shiftRight, Nat.shiftRight_eq_div_pow]
  simp
  omega

theorem value_singleton (b : UInt8) : value [b] = b.toNat := by
  simp [value]

end BigEndian

/-- The loop behind the list of a byte array appends, in order, what it has not visited yet. -/
private theorem toListLoop (bytes : ByteArray) (i : Nat) (done : Bytes) :
    ByteArray.toList.loop bytes i done = done.reverse ++ bytes.data.toList.drop i := by
  fun_induction ByteArray.toList.loop bytes i done with
  | case1 i done hnext ih =>
    have hdata : i < bytes.data.size := hnext
    have hget : bytes.get! i = bytes.data.toList.get ⟨i, hdata⟩ := getElem!_pos bytes.data i hdata
    have hdrop := List.drop_eq_getElem_cons (l := bytes.data.toList) hdata
    rw [ih, hdrop, hget, List.get_eq_getElem, List.reverse_cons, List.append_assoc, List.singleton_append]
  | case2 i done hend =>
    have hpast : bytes.data.toList.length ≤ i := Nat.le_of_not_lt hend
    rw [List.drop_eq_nil_of_le hpast, List.append_nil]

private theorem toList_eq_data (bytes : ByteArray) : bytes.toList = bytes.data.toList := by
  rw [ByteArray.toList, toListLoop]
  simp

theorem utf8_length (s : String) : s.toUTF8.toList.length = s.utf8ByteSize := by
  rw [toList_eq_data]
  rfl

/-- A text is read back from its own encoding. -/
theorem fromUTF8?_utf8 (s : String) :
    String.fromUTF8? ⟨s.toUTF8.toList.toArray⟩ = some s := by
  have hdata : (⟨s.toUTF8.toList.toArray⟩ : ByteArray) = s.toByteArray := by
    rw [toList_eq_data]
    rfl
  rw [hdata, String.fromUTF8?, dif_pos s.isValidUTF8]
  rfl

/-- A text has as many bytes as it is read from. -/
theorem size_of_fromUTF8? {bytes : Bytes} {s : String}
    (h : String.fromUTF8? ⟨bytes.toArray⟩ = some s) : s.utf8ByteSize = bytes.length := by
  unfold String.fromUTF8? at h
  split at h
  · cases h
    rfl
  · cases h

end EntityForge

namespace EntityForge.Reader

variable {ε α β : Type}

/-- A reader recovers a value from its bytes if the value is admissible, and refuses the bytes if it
is not, whatever follows them and wherever they begin. -/
structure Recovers (r : Reader ε α) (bytes : Bytes) (a : α) (admissible : Prop) : Prop where
  ok : admissible → ∀ rest offset,
    r.run ⟨bytes ++ rest, offset⟩ = .ok (a, ⟨rest, offset + bytes.length⟩)
  error : ¬ admissible → ∀ rest offset, ∃ e, r.run ⟨bytes ++ rest, offset⟩ = .error e

/-- A reader recovers a value from all of its bytes: nothing may follow them. -/
structure Exhausts (r : Reader ε α) (bytes : Bytes) (a : α) (admissible : Prop) : Prop where
  ok : admissible → ∀ offset, ∃ d, r.run ⟨bytes, offset⟩ = .ok (a, d)
  error : ¬ admissible → ∀ offset, ∃ e, r.run ⟨bytes, offset⟩ = .error e

@[simp] theorem run_bind (r : Reader ε α) (f : α → Reader ε β) (c : Cursor) :
    (r >>= f).run c =
      match r.run c with
      | .ok (a, d) => (f a).run d
      | .error e => .error e := rfl

/-- A value in front is read and kept. -/
theorem untilEndFrom_ok {step : Nat → UInt8 → Reader ε α} {done : List α} {head : UInt8}
    {rest : Bytes} {offset : Nat} {a : α} {d : Cursor}
    (h : (step offset head).run ⟨rest, offset + 1⟩ = .ok (a, d)) :
    untilEndFrom step done ⟨head :: rest, offset⟩ = untilEndFrom step (a :: done) d := by
  rw [untilEndFrom]
  dsimp only
  split
  · next b d' hrun =>
    cases h.symm.trans hrun
    rfl
  · next e hrun => cases h.symm.trans hrun

/-- A failure in front ends the reading. -/
theorem untilEndFrom_error {step : Nat → UInt8 → Reader ε α} {done : List α} {head : UInt8}
    {rest : Bytes} {offset : Nat} {e : ε}
    (h : (step offset head).run ⟨rest, offset + 1⟩ = .error e) :
    untilEndFrom step done ⟨head :: rest, offset⟩ = .error e := by
  rw [untilEndFrom]
  dsimp only
  split
  · next b d hrun => cases h.symm.trans hrun
  · next e' hrun =>
    cases h.symm.trans hrun
    rfl

/-- Only equal bytes and equivalent conditions matter. -/
theorem Exhausts.congr {r : Reader ε α} {bytes more : Bytes} {a : α} {admissible admissible' : Prop}
    (h : r.Exhausts bytes a admissible) (hbytes : bytes = more) (hiff : admissible ↔ admissible') :
    r.Exhausts more a admissible' := by
  subst hbytes
  exact ⟨fun hok => h.ok (hiff.mpr hok), fun hbad => h.error (mt hiff.mp hbad)⟩

namespace Recovers

variable {r : Reader ε α} {f : α → Reader ε β} {bytes more : Bytes} {a : α} {b : β}
  {admissible admissible' : Prop}

theorem pure (a : α) : Recovers (ε := ε) (Pure.pure a) [] a True where
  ok _ _ _ := rfl
  error h := absurd trivial h

/-- Only equal bytes, equal values and equivalent conditions matter. -/
theorem congr {a' : α} (h : r.Recovers bytes a admissible) (hbytes : bytes = more) (ha : a = a')
    (hiff : admissible ↔ admissible') : r.Recovers more a' admissible' := by
  subst hbytes ha
  exact ⟨fun hok => h.ok (hiff.mpr hok), fun hbad => h.error (mt hiff.mp hbad)⟩

/-- What is read second starts where the first part ended; both parts must be admissible. -/
theorem bind (hfirst : r.Recovers bytes a admissible)
    (hsecond : (f a).Recovers more b admissible') :
    (r >>= f).Recovers (bytes ++ more) b (admissible ∧ admissible') := by
  constructor
  · rintro ⟨hok, hok'⟩ rest offset
    have hrun := hfirst.ok hok (more ++ rest) offset
    have hnext := hsecond.ok hok' rest (offset + bytes.length)
    rw [List.append_assoc, run_bind, hrun]
    simp only [hnext, List.length_append, Nat.add_assoc]
  · intro hbad rest offset
    rw [List.append_assoc, run_bind]
    by_cases hok : admissible
    · have hrun := hfirst.ok hok (more ++ rest) offset
      obtain ⟨e, he⟩ := hsecond.error (fun h => hbad ⟨hok, h⟩) rest (offset + bytes.length)
      exact ⟨e, by rw [hrun]; exact he⟩
    · obtain ⟨e, he⟩ := hfirst.error hok (more ++ rest) offset
      exact ⟨e, by rw [he]⟩

/-- The last part of a value only puts together what was read. -/
theorem map (h : r.Recovers bytes a admissible) (g : α → β) :
    (r >>= fun x => Pure.pure (g x)).Recovers bytes (g a) admissible :=
  (h.bind (pure (g a))).congr (List.append_nil _) rfl (and_iff_left trivial)

/-- A part that is recovered in any case adds no condition. -/
theorem bind_true (hfirst : r.Recovers bytes a True)
    (hsecond : (f a).Recovers more b admissible) :
    (r >>= f).Recovers (bytes ++ more) b admissible :=
  (hfirst.bind hsecond).congr rfl rfl (and_iff_right trivial)

/-- A rest that is recovered in any case adds no condition. -/
theorem bind_rest (hfirst : r.Recovers bytes a admissible)
    (hsecond : (f a).Recovers more b True) :
    (r >>= f).Recovers (bytes ++ more) b admissible :=
  (hfirst.bind hsecond).congr rfl rfl (and_iff_left trivial)

/-- A part without bytes of its own is recovered last. -/
theorem bind_last (hfirst : r.Recovers bytes a True) (hlast : (f a).Recovers [] b admissible) :
    (r >>= f).Recovers bytes b admissible :=
  (hfirst.bind_true hlast).congr (List.append_nil _) rfl Iff.rfl

/-- What exhausts the bytes is read last. -/
theorem bind_exhausts (hfirst : r.Recovers bytes a admissible)
    (hsecond : (f a).Exhausts more b admissible') :
    (r >>= f).Exhausts (bytes ++ more) b (admissible ∧ admissible') := by
  constructor
  · rintro ⟨hok, hok'⟩ offset
    obtain ⟨d, hd⟩ := hsecond.ok hok' (offset + bytes.length)
    exact ⟨d, by rw [run_bind, hfirst.ok hok more offset]; exact hd⟩
  · intro hbad offset
    rw [run_bind]
    by_cases hok : admissible
    · obtain ⟨e, he⟩ := hsecond.error (fun h => hbad ⟨hok, h⟩) (offset + bytes.length)
      exact ⟨e, by rw [hfirst.ok hok more offset]; exact he⟩
    · obtain ⟨e, he⟩ := hfirst.error hok more offset
      exact ⟨e, by rw [he]⟩

/-- What exhausts the bytes is read last, after a part that adds no condition. -/
theorem bind_true_exhausts (hfirst : r.Recovers bytes a True)
    (hsecond : (f a).Exhausts more b admissible) :
    (r >>= f).Exhausts (bytes ++ more) b admissible := by
  have hboth := hfirst.bind_exhausts hsecond
  rwa [true_and] at hboth

/-- A check reads nothing; it lets exactly the admissible values through. -/
theorem ofExcept {x : Except ε α} (hok : admissible → x = .ok a)
    (herror : ¬ admissible → ∃ e, x = .error e) :
    (Reader.ofExcept x).Recovers [] a admissible := by
  constructor
  · intro h rest offset
    rw [hok h]
    rfl
  · intro h rest offset
    obtain ⟨e, he⟩ := herror h
    exact ⟨e, by rw [he]; rfl⟩

theorem fail (e : ε) (a : α) : (Reader.fail e).Recovers [] a False where
  ok h := h.elim
  error _ _ _ := ⟨e, rfl⟩

/-- Looking at the offset reads nothing. -/
theorem offset {g : Nat → Reader ε α} (h : ∀ n, (g n).Recovers bytes a admissible) :
    (Reader.offset >>= g).Recovers bytes a admissible :=
  ⟨fun hok rest n => (h n).ok hok rest n, fun hbad rest n => (h n).error hbad rest n⟩

theorem take (eof : Nat → ε) (bytes : Bytes) :
    (Reader.take eof bytes.length).Recovers bytes bytes True := by
  constructor
  · intro _ rest offset
    simp [Reader.take]
  · intro h
    exact absurd trivial h

private theorem timesFrom {encode : α → Bytes} {admits : α → Prop} (items done : List α)
    (h : ∀ x ∈ items, r.Recovers (encode x) x (admits x)) :
    (Reader.timesFrom r done items.length).Recovers (items.flatMap encode)
      (done.reverse ++ items) (∀ x ∈ items, admits x) := by
  induction items generalizing done with
  | nil => exact (pure done.reverse).congr rfl (by simp) (by simp)
  | cons x items ih =>
    have hhead := h x (by simp)
    have htail := ih (x :: done) fun y hy => h y (by simp [hy])
    exact (hhead.bind htail).congr (by simp) (by simp) (by simp)

/-- Values that are written one after the other are read one after the other. -/
theorem times {encode : α → Bytes} {admits : α → Prop} {items : List α} {n : Nat}
    (hn : n = items.length) (h : ∀ x ∈ items, r.Recovers (encode x) x (admits x)) :
    (Reader.times r n).Recovers (items.flatMap encode) items (∀ x ∈ items, admits x) := by
  subst hn
  exact timesFrom items [] h

/-- Values that fill their bytes are all read, and the first one that is not admissible ends the
reading. Each begins with a byte that its reader is chosen by. -/
private theorem untilEndFrom {step : Nat → UInt8 → Reader ε α} {head : α → UInt8}
    {tail : α → Bytes} {admits : α → Prop} (items done : List α) (offset : Nat)
    (h : ∀ x ∈ items, ∀ n, (step n (head x)).Recovers (tail x) x (admits x)) :
    ((∀ x ∈ items, admits x) →
      Reader.untilEndFrom step done ⟨items.flatMap fun x => head x :: tail x, offset⟩ =
        .ok (done.reverse ++ items)) ∧
    ((¬ ∀ x ∈ items, admits x) → ∃ e,
      Reader.untilEndFrom step done ⟨items.flatMap fun x => head x :: tail x, offset⟩ =
        .error e) := by
  induction items generalizing done offset with
  | nil =>
    constructor
    · intro _
      simp [Reader.untilEndFrom]
    · intro hbad
      simp at hbad
  | cons x items ih =>
    have hx := h x (by simp) offset
    have hrest := fun n => ih (x :: done) n fun y hy => h y (by simp [hy])
    rw [List.flatMap_cons, List.cons_append]
    by_cases hok : admits x
    · have hrun := hx.ok hok (items.flatMap fun y => head y :: tail y) (offset + 1)
      obtain ⟨hall, hnone⟩ := hrest (offset + 1 + (tail x).length)
      constructor
      · intro hadmits
        have htail := hall fun y hy => hadmits y (by simp [hy])
        rw [untilEndFrom_ok hrun, htail]
        simp
      · intro hbad
        obtain ⟨e, he⟩ := hnone fun hadmits => hbad (by simpa [hok] using hadmits)
        exact ⟨e, by rw [untilEndFrom_ok hrun, he]⟩
    · obtain ⟨e, he⟩ := hx.error hok (items.flatMap fun y => head y :: tail y) (offset + 1)
      constructor
      · intro hadmits
        exact absurd (hadmits x (by simp)) hok
      · intro _
        exact ⟨e, untilEndFrom_error he⟩

/-- The values that fill a byte string are recovered from it as a whole. -/
theorem untilEnd {step : Nat → UInt8 → Reader ε α} {head : α → UInt8} {tail : α → Bytes}
    {admits : α → Prop} {items : List α} (offset : Nat)
    (h : ∀ x ∈ items, ∀ n, (step n (head x)).Recovers (tail x) x (admits x)) :
    (Reader.ofExcept
      (Reader.untilEnd step ⟨items.flatMap fun x => head x :: tail x, offset⟩)).Recovers
        [] items (∀ x ∈ items, admits x) := by
  obtain ⟨hall, hnone⟩ := untilEndFrom items [] offset h
  exact ofExcept hall hnone

end Recovers

/-! Reading back with the errors. -/

/-- A reader recovers a value from its bytes if a check passes, and fails like the check otherwise,
whatever follows the bytes and wherever they begin. -/
def RecoversBy (r : Reader ε α) (bytes : Bytes) (a : α) (check : Except ε Unit) : Prop :=
  ∀ rest offset, r.run ⟨bytes ++ rest, offset⟩ =
    check.map fun _ => (a, ⟨rest, offset + bytes.length⟩)

/-- A reader recovers a value from all of its bytes if a check passes, and fails like the check
otherwise. -/
def ExhaustsBy (r : Reader ε α) (bytes : Bytes) (a : α) (check : Except ε Unit) : Prop :=
  ∀ offset, (r.run ⟨bytes, offset⟩).map (·.1) = check.map fun _ => a

variable {r : Reader ε α} {f : α → Reader ε β} {bytes more : Bytes} {a : α} {b : β}
  {check check' : Except ε Unit}

theorem ExhaustsBy.congr (h : r.ExhaustsBy bytes a check) (hbytes : bytes = more)
    (hcheck : check = check') : r.ExhaustsBy more a check' := by
  subst hbytes hcheck
  exact h

namespace RecoversBy

theorem congr {a' : α} (h : r.RecoversBy bytes a check) (hbytes : bytes = more) (ha : a = a')
    (hcheck : check = check') : r.RecoversBy more a' check' := by
  subst hbytes ha hcheck
  exact h

theorem pure (a : α) : (Pure.pure a : Reader ε α).RecoversBy [] a (.ok ()) := fun _ _ => rfl

theorem bind (hfirst : r.RecoversBy bytes a check) (hsecond : (f a).RecoversBy more b check') :
    (r >>= f).RecoversBy (bytes ++ more) b (check >>= fun _ => check') := by
  intro rest offset
  rw [List.append_assoc, run_bind, hfirst (more ++ rest) offset]
  cases check with
  | error e => rfl
  | ok u =>
    change (f a).run ⟨more ++ rest, offset + bytes.length⟩ =
      check'.map fun _ => (b, ⟨rest, offset + (bytes ++ more).length⟩)
    rw [hsecond rest (offset + bytes.length), List.length_append, Nat.add_assoc]

theorem bind_exhausts (hfirst : r.RecoversBy bytes a check)
    (hsecond : (f a).ExhaustsBy more b check') :
    (r >>= f).ExhaustsBy (bytes ++ more) b (check >>= fun _ => check') := by
  intro offset
  rw [run_bind, hfirst more offset]
  cases check with
  | error e => rfl
  | ok u => exact hsecond (offset + bytes.length)

theorem ofExcept {x : Except ε β} (a : α) :
    (Reader.ofExcept x >>= fun _ => Pure.pure a).RecoversBy [] a (x.map fun _ => ()) := by
  intro rest offset
  cases x <;> rfl

theorem offset {g : Nat → Reader ε α} (h : ∀ n, (g n).RecoversBy bytes a check) :
    (Reader.offset >>= g).RecoversBy bytes a check := fun rest n => h n rest n

private theorem timesFrom {encode : α → Bytes} {verdict : α → Except ε Unit} (items done : List α)
    (h : ∀ x ∈ items, r.RecoversBy (encode x) x (verdict x)) :
    (Reader.timesFrom r done items.length).RecoversBy (items.flatMap encode)
      (done.reverse ++ items) (items.forM verdict) := by
  induction items generalizing done with
  | nil => exact (pure done.reverse).congr rfl (by simp) rfl
  | cons x items ih =>
    have hhead := h x (by simp)
    have htail := ih (x :: done) fun y hy => h y (by simp [hy])
    exact (hhead.bind htail).congr (by simp) (by simp) rfl

/-- Values that are read one after the other are checked one after the other. -/
theorem times {encode : α → Bytes} {verdict : α → Except ε Unit} {items : List α} {n : Nat}
    (hn : n = items.length) (h : ∀ x ∈ items, r.RecoversBy (encode x) x (verdict x)) :
    (Reader.times r n).RecoversBy (items.flatMap encode) items (items.forM verdict) := by
  subst hn
  exact timesFrom items [] h

end RecoversBy

namespace Recovers

variable {admissible : Prop}

theorem by_check (h : r.Recovers bytes a admissible) (hok : admissible) :
    r.RecoversBy bytes a (.ok ()) := h.ok hok

theorem bind_by (hfirst : r.Recovers bytes a True) (hsecond : (f a).RecoversBy more b check) :
    (r >>= f).RecoversBy (bytes ++ more) b check := (hfirst.by_check trivial).bind hsecond

theorem bind_exhausts_by (hfirst : r.Recovers bytes a True)
    (hsecond : (f a).ExhaustsBy more b check) : (r >>= f).ExhaustsBy (bytes ++ more) b check :=
  (hfirst.by_check trivial).bind_exhausts hsecond

end Recovers

end EntityForge.Reader
