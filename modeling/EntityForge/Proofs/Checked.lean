import Mathlib.Data.List.Forall2

/-!
Computations that can fail, opened from their results: a sequence of them succeeds exactly if each
step does.
-/

namespace EntityForge.Checked

variable {ε α β : Type}

theorem isOk_iff {x : Except ε α} : x.isOk = true ↔ ∃ a, x = .ok a := by
  cases x <;> simp [Except.isOk, Except.toBool]

theorem bind_eq_ok {x : Except ε α} {f : α → Except ε β} {b : β} :
    (x >>= f) = .ok b ↔ ∃ a, x = .ok a ∧ f a = .ok b := by
  cases x <;> simp [bind, Except.bind]

theorem map_eq_ok {x : Except ε α} {f : α → β} {b : β} :
    x.map f = .ok b ↔ ∃ a, x = .ok a ∧ f a = b := by
  cases x <;> simp [Except.map]

theorem mapError_eq_ok {ε' : Type} {x : Except ε α} {f : ε → ε'} {a : α} :
    x.mapError f = .ok a ↔ x = .ok a := by
  cases x <;> simp [Except.mapError]

/-! Computations that change a state go on from the one that their first part leaves. -/

/-- What is decided of the answer of a computation, once it has been made, holds of its answer. -/
theorem decided {x : Except ε α} {a : α} {P : α → Prop} [DecidablePred P] (hx : x = .ok a)
    (h : x.toOption.any (fun a => decide (P a)) = true) : P a := by
  rw [hx] at h
  exact of_decide_eq_true h

theorem run_bind_ok {σ : Type} {x : ExceptT ε (StateM σ) α} {f : α → ExceptT ε (StateM σ) β}
    {s s' : σ} {a : α} (h : StateT.run (ExceptT.run x) s = (.ok a, s')) :
    StateT.run (ExceptT.run (x >>= f)) s = StateT.run (ExceptT.run (f a)) s' := by
  rw [ExceptT.run_bind, StateT.run_bind, h]
  rfl

theorem run_bind_error {σ : Type} {x : ExceptT ε (StateM σ) α} {f : α → ExceptT ε (StateM σ) β}
    {s s' : σ} {e : ε} (h : StateT.run (ExceptT.run x) s = (.error e, s')) :
    StateT.run (ExceptT.run (x >>= f)) s = (.error e, s') := by
  rw [ExceptT.run_bind, StateT.run_bind, h]
  rfl

/-! Several computations in turn. -/

/-- A check of each item in turn passes if every item passes. -/
theorem forM_eq_ok {f : α → Except ε Unit} {items : List α} :
    items.forM f = .ok () ↔ ∀ x ∈ items, f x = .ok () := by
  induction items with
  | nil => simp [pure, Except.pure]
  | cons x items ih =>
    rw [List.forM, List.forall_mem_cons, bind_eq_ok]
    exact ⟨fun ⟨_, hx, hitems⟩ => ⟨hx, ih.mp hitems⟩, fun ⟨hx, hitems⟩ => ⟨(), hx, ih.mpr hitems⟩⟩

/-- A check of each item in turn fails as the first item that fails does. -/
theorem forM_eq_error {f : α → Except ε Unit} {items : List α} {e : ε} :
    items.forM f = .error e ↔
      ∃ before x after, items = before ++ x :: after ∧ (∀ y ∈ before, f y = .ok ()) ∧
        f x = .error e := by
  induction items with
  | nil => simp [pure, Except.pure]
  | cons first items ih =>
    rw [List.forM]
    cases hfirst : f first with
    | error e' =>
      change Except.error e' = .error e ↔ _
      constructor
      · intro heq
        exact ⟨[], first, items, rfl, by simp, hfirst.trans heq⟩
      · rintro ⟨before, x, after, hsplit, hbefore, hx⟩
        cases before with
        | nil =>
          cases hsplit
          exact hfirst.symm.trans hx
        | cons y before =>
          cases hsplit
          rw [hbefore first (by simp)] at hfirst
          cases hfirst
    | ok u =>
      change items.forM f = .error e ↔ _
      rw [ih]
      constructor
      · rintro ⟨before, x, after, rfl, hbefore, hx⟩
        exact ⟨first :: before, x, after, rfl, List.forall_mem_cons.mpr ⟨hfirst, hbefore⟩, hx⟩
      · rintro ⟨before, x, after, hsplit, hbefore, hx⟩
        cases before with
        | nil =>
          cases hsplit
          rw [hfirst] at hx
          cases hx
        | cons y before =>
          cases hsplit
          exact ⟨before, x, after, rfl, (List.forall_mem_cons.mp hbefore).2, hx⟩

/-- Items are converted together if each of them is. -/
theorem mapM_eq_ok {f : α → Except ε β} {items : List α} {results : List β} :
    items.mapM f = .ok results ↔ List.Forall₂ (fun x y => f x = .ok y) items results := by
  induction items generalizing results with
  | nil => cases results <;> simp [pure, Except.pure]
  | cons x items ih =>
    simp only [List.mapM_cons, bind_eq_ok, ih, pure, Except.pure, Except.ok.injEq]
    cases results with
    | nil => simp
    | cons y results =>
      constructor
      · rintro ⟨y', hx, results', hitems, heq⟩
        cases heq
        exact .cons hx hitems
      · intro h
        obtain ⟨hx, hitems⟩ := List.forall₂_cons.mp h
        exact ⟨y, hx, results, hitems, rfl⟩

theorem forall₂_mem_left {R : α → β → Prop} {items : List α} {results : List β}
    (h : List.Forall₂ R items results) {x : α} (hx : x ∈ items) : ∃ y ∈ results, R x y := by
  induction h with
  | nil => simp at hx
  | @cons x' y _ _ hhead _ ih =>
    rcases List.mem_cons.mp hx with rfl | hx
    · exact ⟨y, by simp, hhead⟩
    · obtain ⟨z, hz, hrest⟩ := ih hx
      exact ⟨z, by simp [hz], hrest⟩

theorem forall₂_mem_right {R : α → β → Prop} {items : List α} {results : List β}
    (h : List.Forall₂ R items results) {y : β} (hy : y ∈ results) : ∃ x ∈ items, R x y :=
  forall₂_mem_left h.flip hy

/-- What stands at one place of two lists. -/
theorem forall₂_getElem? {R : α → β → Prop} {items : List α} {results : List β}
    (h : List.Forall₂ R items results) {i : Nat} {x : α} {y : β} (hx : items[i]? = some x)
    (hy : results[i]? = some y) : R x y := by
  obtain ⟨hbound, rfl⟩ := List.getElem?_eq_some_iff.mp hx
  obtain ⟨hbound', rfl⟩ := List.getElem?_eq_some_iff.mp hy
  exact h.get hbound hbound'

/-- Replacing an item by another one that meets the same result. -/
theorem forall₂_set {R : α → β → Prop} {items : List α} {results : List β}
    (h : List.Forall₂ R items results) {i : Nat} {x : α} {y : β} (hy : results[i]? = some y)
    (hx : R x y) : List.Forall₂ R (items.set i x) results := by
  induction h generalizing i with
  | nil => cases hy
  | cons hhead htail ih =>
    cases i with
    | zero =>
      cases hy
      exact .cons hx htail
    | succ i => exact .cons hhead (ih hy)

/-- Things that meet between two lists have a list in the middle. -/
theorem forall₂_middle {γ : Type} {R : α → β → Prop} {S : γ → β → Prop} {items : List α}
    {results : List γ} (h : List.Forall₂ (fun x z => ∃ y, R x y ∧ S z y) items results) :
    ∃ middle, List.Forall₂ R items middle ∧ List.Forall₂ S results middle := by
  induction h with
  | nil => exact ⟨[], .nil, .nil⟩
  | cons hhead _ ih =>
    obtain ⟨y, hleft, hright⟩ := hhead
    obtain ⟨middle, hlefts, hrights⟩ := ih
    exact ⟨y :: middle, .cons hleft hlefts, .cons hright hrights⟩

theorem mapM_ok {f : α → Except ε β} {items : List α} (h : ∀ x ∈ items, ∃ y, f x = .ok y) :
    ∃ results, items.mapM f = .ok results := by
  induction items with
  | nil => exact ⟨[], rfl⟩
  | cons x items ih =>
    obtain ⟨y, hy⟩ := h x (by simp)
    obtain ⟨results, hresults⟩ := ih fun z hz => h z (by simp [hz])
    exact ⟨y :: results, by rw [List.mapM_cons, hy, hresults]; rfl⟩

/-- Reading back what was written gives the items that were written. -/
theorem mapM_map_ok (f : β → Except ε α) (g : α → β) (h : ∀ a, f (g a) = .ok a)
    (items : List α) :
    (items.map g).mapM f = .ok items := by
  induction items with
  | nil => rfl
  | cons x items ih =>
    rw [List.map_cons, List.mapM_cons, h, ih]
    rfl

/-- Items that pass a guard are converted by a function. -/
theorem mapM_guarded {p : α → Prop} [DecidablePred p] {g : α → β} {e : α → ε} {items : List α}
    {results : List β} :
    items.mapM (fun x => if p x then Except.ok (g x) else .error (e x)) = .ok results ↔
      (∀ x ∈ items, p x) ∧ results = items.map g := by
  induction items generalizing results with
  | nil =>
    cases results <;> simp [pure, Except.pure]
  | cons x items ih =>
    simp only [List.mapM_cons, bind_eq_ok, ih, pure, Except.pure, Except.ok.injEq,
      List.forall_mem_cons, List.map_cons]
    by_cases hx : p x
    · simp only [hx, if_true, Except.ok.injEq, true_and]
      constructor
      · rintro ⟨y, hy, rest, ⟨hitems, rfl⟩, rfl⟩
        exact ⟨hitems, by rw [hy]⟩
      · rintro ⟨hitems, rfl⟩
        exact ⟨g x, rfl, items.map g, ⟨hitems, rfl⟩, rfl⟩
    · simp [hx]

/-! What a computation fails for. -/

/-- A computation fails for one of some items, with an error that the item gives rise to, or none of
the items gives rise to any. -/
def Blames (bad : α → ε → Prop) (items : List α) : Except ε β → Prop
  | .ok _ => ∀ a ∈ items, ∀ e, ¬ bad a e
  | .error e => ∃ a ∈ items, bad a e

namespace Blames

variable {γ : Type} {bad : α → ε → Prop} {items more : List α} {x : Except ε β}

theorem ok_iff (h : Blames bad items x) : (∃ b, x = .ok b) ↔ ∀ a ∈ items, ∀ e, ¬ bad a e := by
  cases x with
  | ok b => exact iff_of_true ⟨b, rfl⟩ h
  | error e =>
    obtain ⟨a, ha, hbad⟩ := h
    refine iff_of_false ?_ fun hnone => hnone a ha e hbad
    rintro ⟨b, heq⟩
    cases heq

theorem of_error (h : Blames bad items x) {e : ε} (hx : x = .error e) : ∃ a ∈ items, bad a e := by
  subst hx
  exact h

theorem ok (b : β) : Blames bad [] (.ok b) := fun _ ha => absurd ha List.not_mem_nil

theorem bind {f : β → Except ε γ} (hx : Blames bad items x) (hf : ∀ b, Blames bad more (f b)) :
    Blames bad (items ++ more) (x >>= f) := by
  cases x with
  | error e =>
    obtain ⟨a, ha, hbad⟩ := hx
    exact ⟨a, List.mem_append_left _ ha, hbad⟩
  | ok b =>
    have hnext := hf b
    change Blames bad (items ++ more) (f b)
    cases hresult : f b with
    | error e =>
      rw [hresult] at hnext
      obtain ⟨a, ha, hbad⟩ := hnext
      exact ⟨a, List.mem_append_right _ ha, hbad⟩
    | ok c =>
      rw [hresult] at hnext
      exact List.forall_mem_append.mpr ⟨hx, hnext⟩

/-- A step that cannot fail. -/
theorem bind_ok (hx : Blames bad items x) (f : β → γ) :
    Blames bad items (x >>= fun b => .ok (f b)) := by
  have hboth : Blames bad (items ++ []) (x >>= fun b => .ok (f b)) := hx.bind fun b => ok (f b)
  rwa [List.append_nil] at hboth

theorem mapM {xs : List γ} {parts : γ → List α} {f : γ → Except ε β}
    (h : ∀ x ∈ xs, Blames bad (parts x) (f x)) : Blames bad (xs.flatMap parts) (xs.mapM f) := by
  induction xs with
  | nil => exact ok []
  | cons x xs ih =>
    rw [List.flatMap_cons, List.mapM_cons]
    exact (h x List.mem_cons_self).bind fun y =>
      (ih fun z hz => h z (List.mem_cons_of_mem _ hz)).bind_ok (y :: ·)

end Blames

/-! Two computations side by side. -/

/-- Both computations answer, and their answers are related, or both fail with one error. -/
inductive Alike (R : α → β → Prop) : Except ε α → Except ε β → Prop where
  | ok {a : α} {b : β} (h : R a b) : Alike R (.ok a) (.ok b)
  | error (e : ε) : Alike R (.error e) (.error e)

theorem Alike.of_ok {R : α → β → Prop} {x : Except ε α} {y : Except ε β} (h : Alike R x y) {a : α}
    (hx : x = .ok a) : ∃ b, y = .ok b ∧ R a b := by
  cases h with
  | ok hanswers =>
    cases hx
    exact ⟨_, rfl, hanswers⟩
  | error e => cases hx

theorem Alike.mapError {ε' : Type} {R : α → β → Prop} {x : Except ε α} {y : Except ε β}
    (h : Alike R x y) (f : ε → ε') : Alike R (x.mapError f) (y.mapError f) := by
  cases h with
  | ok hanswers => exact .ok hanswers
  | error e => exact .error (f e)

section Steps

variable {α' β' : Type} {R : α → β → Prop} {S : α' → β' → Prop}

theorem Alike.bind {x : Except ε α} {y : Except ε β} {f : α → Except ε α'} {g : β → Except ε β'}
    (h : Alike R x y) (hnext : ∀ a b, R a b → Alike S (f a) (g b)) :
    Alike S (x >>= f) (y >>= g) := by
  cases h with
  | ok hanswers => exact hnext _ _ hanswers
  | error e => exact .error e

/-- Related items are converted to related results, or the first failure is the same. -/
theorem Alike.mapM {xs : List α} {ys : List β} {f : α → Except ε α'} {g : β → Except ε β'}
    (h : List.Forall₂ R xs ys) (hone : ∀ a b, R a b → Alike S (f a) (g b)) :
    Alike (List.Forall₂ S) (xs.mapM f) (ys.mapM g) := by
  induction h with
  | nil => exact .ok .nil
  | cons hhead _ ih =>
    rw [List.mapM_cons, List.mapM_cons]
    exact (hone _ _ hhead).bind fun _ _ hfirst => ih.bind fun _ _ hrest => .ok (.cons hfirst hrest)

/-- Related items lead from related states to related ones, or the first failure is the same. -/
theorem Alike.foldlM {xs : List α} {ys : List β} {f : α' → α → Except ε α'}
    {g : β' → β → Except ε β'} {s : α'} {t : β'} (h : List.Forall₂ R xs ys) (hinit : S s t)
    (hstep : ∀ s t a b, S s t → R a b → Alike S (f s a) (g t b)) :
    Alike S (xs.foldlM f s) (ys.foldlM g t) := by
  induction h generalizing s t with
  | nil => exact .ok hinit
  | cons hhead _ ih =>
    rw [List.foldlM_cons, List.foldlM_cons]
    exact (hstep _ _ _ _ hinit hhead).bind fun _ _ hnext => ih hnext

end Steps

end EntityForge.Checked
