import EntityForge.Proofs.Bytes.Recovery
import Mathlib.Algebra.Order.Ring.Nat

/-!
How many bytes a reader takes. Whatever bytes are offered, a value that is read accounts for the
bytes that were taken for it; so what a format can hold bounds what can be read from it. The rules
follow the ways in which readers are put together.
-/

namespace EntityForge.Reader

variable {ε α β : Type} {P : α → Nat → Prop} {Q : β → Nat → Prop} {r : Reader ε α}

/-- Whatever a reader answers stands in a relation to the number of bytes that it took. -/
def Spends (r : Reader ε α) (P : α → Nat → Prop) : Prop :=
  ∀ c a d, r.run c = .ok (a, d) → ∃ n, c.rest.length = n + d.rest.length ∧ P a n

namespace Spends

theorem pure {a : α} (h : P a 0) : Spends (ε := ε) (Pure.pure a) P := by
  intro c b d hrun
  cases hrun
  exact ⟨0, (Nat.zero_add _).symm, h⟩

theorem fail (e : ε) : Spends (Reader.fail e) P := fun _ _ _ hrun => nomatch hrun

/-- What is read second adds to the bytes of the first part. -/
theorem bind {f : α → Reader ε β} (hr : r.Spends P)
    (hf : ∀ a n, P a n → (f a).Spends fun b m => Q b (n + m)) : (r >>= f).Spends Q := by
  intro c b d hrun
  rw [run_bind] at hrun
  cases hfirst : r.run c with
  | error e =>
    rw [hfirst] at hrun
    cases hrun
  | ok p =>
    obtain ⟨a, d'⟩ := p
    rw [hfirst] at hrun
    obtain ⟨n, hn, ha⟩ := hr c a d' hfirst
    obtain ⟨m, hm, hb⟩ := hf a n ha d' b d hrun
    exact ⟨n + m, by rw [hn, hm, Nat.add_assoc], hb⟩

/-- The last part of a value only puts together what was read. -/
theorem map {f : α → β} (hr : r.Spends P) (h : ∀ a n, P a n → Q (f a) n) :
    (r >>= fun a => Pure.pure (f a)).Spends Q :=
  hr.bind fun a n ha => .pure (h a n ha)

theorem ofExcept {x : Except ε α} (h : ∀ a, x = .ok a → P a 0) :
    (Reader.ofExcept x).Spends P := by
  cases x with
  | ok a => exact pure (h a rfl)
  | error e => exact fail e

/-- Looking at the offset takes nothing. -/
theorem offset {g : Nat → Reader ε α} (h : ∀ n, (g n).Spends P) :
    (Reader.offset >>= g).Spends P :=
  fun c a d hrun => h c.offset c a d hrun

/-- Looking at what is left takes nothing. -/
theorem remaining {g : Nat → Reader ε α} (h : ∀ n, (g n).Spends P) :
    (Reader.remaining >>= g).Spends P :=
  fun c a d hrun => h c.rest.length c a d hrun

theorem take (eof : Nat → ε) (n : Nat) :
    (Reader.take eof n).Spends fun bytes m => m = n ∧ bytes.length = n := by
  intro c bytes d hrun
  unfold Reader.take at hrun
  dsimp only at hrun
  split at hrun
  · next hlength =>
    cases hrun
    refine ⟨n, ?_, rfl, hlength⟩
    rw [List.length_take] at hlength
    rw [List.length_drop]
    omega
  · cases hrun

section Lists

variable {R : α → Prop} {size : α → Nat}

private theorem timesFrom (h : r.Spends fun a n => R a ∧ n = size a) (done : List α) (n : Nat) :
    (Reader.timesFrom r done n).Spends fun items m => ∃ more, items = done.reverse ++ more ∧
      more.length = n ∧ (∀ a ∈ more, R a) ∧ m = (more.map size).sum := by
  induction n generalizing done with
  | zero => exact pure ⟨[], by simp⟩
  | succ n ih =>
    refine h.bind ?_
    rintro a _ ⟨ha, rfl⟩ c items d hrun
    obtain ⟨m, hm, more, rfl, hlength, hmore, rfl⟩ := ih (a :: done) c items d hrun
    exact ⟨_, hm, a :: more, by simp, by rw [List.length_cons, hlength],
      List.forall_mem_cons.mpr ⟨ha, hmore⟩, by simp⟩

/-- As many values as were asked for, and the bytes of each. -/
theorem times (h : r.Spends fun a n => R a ∧ n = size a) (n : Nat) :
    (Reader.times r n).Spends fun items m =>
      items.length = n ∧ (∀ a ∈ items, R a) ∧ m = (items.map size).sum := by
  intro c items d hrun
  obtain ⟨m, hm, more, rfl, hmore⟩ := timesFrom h [] n c items d hrun
  exact ⟨m, hm, hmore⟩

private theorem untilEndFrom {step : Nat → UInt8 → Reader ε α}
    (h : ∀ offset b, (step offset b).Spends fun a n => R a ∧ n + 1 = size a) (done : List α)
    (c : Cursor) {items : List α} (hrun : Reader.untilEndFrom step done c = .ok items) :
    ∃ more, items = done.reverse ++ more ∧ (∀ a ∈ more, R a) ∧
      c.rest.length = (more.map size).sum := by
  fun_induction Reader.untilEndFrom step done c with
  | case1 done c hrest =>
    cases hrun
    exact ⟨[], by simp [hrest]⟩
  | case2 done c b rest hrest a d hstep ih =>
    obtain ⟨more, rfl, hmore, hsum⟩ := ih hrun
    obtain ⟨n, hn, ha, hsize⟩ := h _ _ _ _ _ hstep
    refine ⟨a :: more, by simp, List.forall_mem_cons.mpr ⟨ha, hmore⟩, ?_⟩
    rw [hrest, List.length_cons, hn, List.map_cons, List.sum_cons, ← hsize, hsum]
    omega
  | case3 => cases hrun

/-- Values that are read up to the end of the bytes account for all of them. Each begins with a
byte that is read before it. -/
theorem untilEnd {step : Nat → UInt8 → Reader ε α}
    (h : ∀ offset b, (step offset b).Spends fun a n => R a ∧ n + 1 = size a) {c : Cursor}
    {items : List α} (hrun : Reader.untilEnd step c = .ok items) :
    (∀ a ∈ items, R a) ∧ c.rest.length = (items.map size).sum := by
  obtain ⟨more, rfl, hmore⟩ := untilEndFrom h [] c hrun
  exact hmore

end Lists

end Spends

end EntityForge.Reader

/-!
Reading that ends where it must. The bytes that a self-delimiting reader takes settle its answer:
whatever stands behind them is left alone, and where they are cut short, the reader runs out of
bytes before it can object to anything else. A sealed reader takes all bytes, so that neither a part
of them nor more than them is accepted. The rules follow the ways in which readers are put together.
-/

namespace EntityForge.Reader

variable {ε α β : Type} {short : ε → Prop} {surplus : Nat → ε}

/-- From the bytes that are taken the same is read whatever stands behind them, and from fewer of
them nothing is read, for the reason that they are cut short. -/
def SelfDelimiting (r : Reader ε α) (short : ε → Prop) : Prop :=
  ∀ c a d, r.run c = .ok (a, d) → ∃ taken, c.rest = taken ++ d.rest ∧
    (∀ behind, r.run ⟨taken ++ behind, c.offset⟩ = .ok (a, ⟨behind, d.offset⟩)) ∧
    ∀ cut, cut <+: taken → cut ≠ taken → ∃ e, r.run ⟨cut, c.offset⟩ = .error e ∧ short e

/-- Bytes that are read are neither a part of bytes that are read, nor do they have such a part. -/
def Sealed (r : Reader ε α) (short : ε → Prop) (surplus : Nat → ε) : Prop :=
  ∀ c a d, r.run c = .ok (a, d) →
    (∀ cut, cut <+: c.rest → cut ≠ c.rest → ∃ e, r.run ⟨cut, c.offset⟩ = .error e ∧ short e) ∧
    ∀ extra, extra ≠ [] → r.run ⟨c.rest ++ extra, c.offset⟩ = .error (surplus extra.length)

/-- A part of two byte strings in a row is a part of the first, or all of the first and a part of
the second. -/
private theorem cut_cases {first second cut : Bytes} (h : cut <+: first ++ second)
    (hne : cut ≠ first ++ second) :
    (cut <+: first ∧ cut ≠ first) ∨ ∃ rest, cut = first ++ rest ∧ rest <+: second ∧ rest ≠ second := by
  by_cases hfirst : first <+: cut
  · obtain ⟨rest, rfl⟩ := hfirst
    refine .inr ⟨rest, rfl, List.prefix_append_right_inj first |>.mp h, ?_⟩
    rintro rfl
    exact hne rfl
  · have hcut := (List.prefix_or_prefix_of_prefix h (List.prefix_append first second)).resolve_right
      hfirst
    refine .inl ⟨hcut, ?_⟩
    rintro rfl
    exact hfirst (List.prefix_refl _)

namespace SelfDelimiting

variable {r : Reader ε α}

theorem pure (a : α) : SelfDelimiting (ε := ε) (Pure.pure a) short := by
  intro c b d hrun
  cases hrun
  refine ⟨[], rfl, fun _ => rfl, fun cut hcut hne => ?_⟩
  exact absurd (List.prefix_nil.mp hcut) hne

theorem fail (e : ε) : (Reader.fail e : Reader ε α).SelfDelimiting short :=
  fun _ _ _ hrun => nomatch hrun

/-- Where the second part is cut short, the first one is read as before. -/
theorem bind {f : α → Reader ε β} (hr : r.SelfDelimiting short)
    (hf : ∀ a, (f a).SelfDelimiting short) : (r >>= f).SelfDelimiting short := by
  intro c b d hrun
  rw [run_bind] at hrun
  cases hfirst : r.run c with
  | error e =>
    rw [hfirst] at hrun
    cases hrun
  | ok p =>
    obtain ⟨a, middle⟩ := p
    rw [hfirst] at hrun
    obtain ⟨first, hrest, hread, hcut⟩ := hr c a middle hfirst
    obtain ⟨second, hrest', hread', hcut'⟩ := hf a middle b d hrun
    refine ⟨first ++ second, ?_, fun behind => ?_, fun cut hprefix hne => ?_⟩
    · rw [hrest, hrest', List.append_assoc]
    · rw [run_bind, List.append_assoc, hread]
      exact hread' behind
    · rcases cut_cases hprefix hne with ⟨hpart, hproper⟩ | ⟨rest, rfl, hpart, hproper⟩
      · obtain ⟨e, he, hshort⟩ := hcut cut hpart hproper
        exact ⟨e, by rw [run_bind, he], hshort⟩
      · obtain ⟨e, he, hshort⟩ := hcut' rest hpart hproper
        exact ⟨e, by rw [run_bind, hread]; exact he, hshort⟩

/-- The last part of a value only puts together what was read. -/
theorem map (f : α → β) (hr : r.SelfDelimiting short) :
    (r >>= fun a => Pure.pure (f a)).SelfDelimiting short :=
  hr.bind fun a => pure (f a)

/-- A check reads nothing. -/
theorem ofExcept (x : Except ε α) : (Reader.ofExcept x).SelfDelimiting short := by
  cases x with
  | ok a => exact pure a
  | error e => exact fail e

/-- The offset does not depend on what is to be read. -/
theorem offset {g : Nat → Reader ε α} (h : ∀ n, (g n).SelfDelimiting short) :
    (Reader.offset >>= g).SelfDelimiting short :=
  fun c a d hrun => h c.offset c a d hrun

theorem take {eof : Nat → ε} (h : ∀ offset, short (eof offset)) (n : Nat) :
    (Reader.take eof n).SelfDelimiting short := by
  intro c bytes d hrun
  unfold Reader.take at hrun
  dsimp only at hrun
  split at hrun
  · next hlength =>
    cases hrun
    have htaken : (c.rest.take n).length = n := hlength
    refine ⟨c.rest.take n, (List.take_append_drop n c.rest).symm, fun behind => ?_,
      fun cut hcut hne => ⟨eof c.offset, ?_, h c.offset⟩⟩
    · have hread : (c.rest.take n ++ behind).take n = c.rest.take n := by
        rw [List.take_append_of_le_length (by omega), List.take_of_length_le (by omega)]
      have hbehind : (c.rest.take n ++ behind).drop n = behind := by
        rw [List.drop_append_of_le_length (by omega), List.drop_of_length_le (by omega),
          List.nil_append]
      simp only [Reader.take, hread, hbehind, htaken, if_true]
    · have hshorter : cut.length < n := by
        have hle := hcut.length_le
        have hlength := mt hcut.eq_of_length hne
        omega
      have hmissing : (cut.take n).length ≠ n := by
        rw [List.length_take]
        omega
      simp only [Reader.take, if_neg hmissing]
  · cases hrun

private theorem timesFrom (h : r.SelfDelimiting short) (done : List α) (n : Nat) :
    (Reader.timesFrom r done n).SelfDelimiting short := by
  induction n generalizing done with
  | zero => exact pure done.reverse
  | succ n ih => exact h.bind fun a => ih (a :: done)

theorem times (h : r.SelfDelimiting short) (n : Nat) :
    (Reader.times r n).SelfDelimiting short :=
  timesFrom h [] n

end SelfDelimiting

theorem run_assoc {γ : Type} (r : Reader ε α) (f : α → Reader ε β) (g : β → Reader ε γ)
    (c : Cursor) : ((r >>= f) >>= g).run c = (r >>= fun a => f a >>= g).run c := by
  simp only [run_bind]
  cases r.run c <;> rfl

namespace Sealed

variable {r : Reader ε α}

/-- Where a part is read in front of what is sealed, bytes are missed in that part if they are cut
short inside it, and behind it otherwise. -/
theorem parts {early : ε → Prop} {f : α → Reader ε β} (hr : r.SelfDelimiting early)
    (hf : ∀ a, (f a).Sealed short surplus) {c d : Cursor} {b : β}
    (hrun : (r >>= f).run c = .ok (b, d)) : ∃ a middle, r.run c = .ok (a, middle) ∧
      (∀ cut, cut <+: c.rest → cut ≠ c.rest → ∃ e, (r >>= f).run ⟨cut, c.offset⟩ = .error e ∧
        if cut.length + middle.rest.length < c.rest.length then early e else short e) ∧
      ∀ extra, extra ≠ [] →
        (r >>= f).run ⟨c.rest ++ extra, c.offset⟩ = .error (surplus extra.length) := by
  rw [run_bind] at hrun
  cases hfirst : r.run c with
  | error e =>
    rw [hfirst] at hrun
    cases hrun
  | ok p =>
    obtain ⟨a, middle⟩ := p
    rw [hfirst] at hrun
    obtain ⟨first, hrest, hread, hcut⟩ := hr c a middle hfirst
    obtain ⟨hcut', hextra⟩ := hf a middle b d hrun
    refine ⟨a, middle, rfl, fun cut hprefix hne => ?_, fun extra hne => ?_⟩
    · rw [hrest] at hprefix hne
      have hlonger : c.rest.length = first.length + middle.rest.length := by
        rw [hrest, List.length_append]
      rcases cut_cases hprefix hne with ⟨hpart, hproper⟩ | ⟨rest, rfl, hpart, hproper⟩
      · obtain ⟨e, he, hearly⟩ := hcut cut hpart hproper
        have hinside : cut.length + middle.rest.length < c.rest.length := by
          have hle := hpart.length_le
          have hne := mt hpart.eq_of_length hproper
          omega
        exact ⟨e, by rw [run_bind, he], by rwa [if_pos hinside]⟩
      · obtain ⟨e, he, hshort⟩ := hcut' rest hpart hproper
        have hbehind : ¬ (first ++ rest).length + middle.rest.length < c.rest.length := by
          rw [List.length_append]
          omega
        exact ⟨e, by rw [run_bind, hread]; exact he, by rwa [if_neg hbehind]⟩
    · rw [run_bind, hrest, List.append_assoc, hread]
      exact hextra extra hne

/-- Reading is sealed by a last part that is. -/
theorem bind {f : α → Reader ε β} (hr : r.SelfDelimiting short)
    (hf : ∀ a, (f a).Sealed short surplus) : (r >>= f).Sealed short surplus := by
  intro c b d hrun
  obtain ⟨_, _, _, hcut, hextra⟩ := parts hr hf hrun
  refine ⟨fun cut hprefix hne => ?_, hextra⟩
  obtain ⟨e, he, hshort⟩ := hcut cut hprefix hne
  exact ⟨e, he, by rwa [ite_self] at hshort⟩

/-- A reading is sealed by the check that nothing is left. -/
theorem atEnd (a : α) :
    (Reader.remaining >>= fun n => if n ≠ 0 then Reader.fail (surplus n) else Pure.pure a :
      Reader ε α).Sealed short surplus := by
  intro c b d hrun
  have hempty : c.rest = [] := by
    cases hrest : c.rest with
    | nil => rfl
    | cons head rest =>
      have hlength : c.rest.length ≠ 0 := by simp [hrest]
      rw [run_bind, Reader.remaining] at hrun
      simp only [if_pos hlength] at hrun
      cases hrun
  refine ⟨fun cut hcut hne => ?_, fun extra hne => ?_⟩
  · rw [hempty] at hcut hne
    exact absurd (List.prefix_nil.mp hcut) hne
  · have hlength : extra.length ≠ 0 := by rwa [Ne, List.length_eq_zero_iff]
    rw [hempty, List.nil_append, run_bind, Reader.remaining]
    simp only [if_pos hlength]
    rfl

end Sealed

end EntityForge.Reader
