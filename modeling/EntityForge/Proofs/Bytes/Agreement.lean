import EntityForge.Proofs.Bytes.Recovery

/-!
Reading alike. A value may be written in two ways, with indices into different tables. Two readers
agree about it if either both read it, each from its own bytes, or both refuse it for the same
reason. The rules below follow the ways in which readers are put together, so that agreement about a
whole format comes from agreement about its parts.
-/

namespace EntityForge.Reader

variable {ε α β : Type}

/-- Two readers agree about a value whose two layouts have one length: wherever these begin, both
readers take exactly their layout and answer the value, or both fail for the same reason, whatever
follows. -/
structure Agrees (r r' : Reader ε α) (bytes bytes' : Bytes) (a : α) : Prop where
  length : bytes.length = bytes'.length
  run : ∀ offset,
    (∀ rest rest', r.run ⟨bytes ++ rest, offset⟩ = .ok (a, ⟨rest, offset + bytes.length⟩) ∧
      r'.run ⟨bytes' ++ rest', offset⟩ = .ok (a, ⟨rest', offset + bytes.length⟩)) ∨
    ∃ e, ∀ rest rest', r.run ⟨bytes ++ rest, offset⟩ = .error e ∧
      r'.run ⟨bytes' ++ rest', offset⟩ = .error e

/-- Two readers come to the same end when each reads all of its bytes. -/
def EndsAlike (r r' : Reader ε α) (bytes bytes' : Bytes) : Prop :=
  ∀ offset, (r.run ⟨bytes, offset⟩).map Prod.fst = (r'.run ⟨bytes', offset⟩).map Prod.fst

variable {r r' : Reader ε α} {f f' : α → Reader ε β} {bytes bytes' more more' : Bytes} {a : α}
  {b : β}

theorem EndsAlike.congr {bytes₁ bytes₁' : Bytes} (h : r.EndsAlike r' bytes bytes')
    (hbytes : bytes = bytes₁) (hbytes' : bytes' = bytes₁') : r.EndsAlike r' bytes₁ bytes₁' := by
  subst hbytes hbytes'
  exact h

theorem Recovers.agrees (h : r.Recovers bytes a True) (h' : r'.Recovers bytes' a True)
    (length : bytes.length = bytes'.length) : r.Agrees r' bytes bytes' a := by
  constructor
  · exact length
  · intro offset
    left
    intro rest rest'
    rw [length]
    constructor
    · rw [← length]
      exact h.ok trivial rest offset
    · exact h'.ok trivial rest' offset

namespace Agrees

theorem pure (a : α) : Agrees (ε := ε) (Pure.pure a) (Pure.pure a) [] [] a :=
  (Recovers.pure a).agrees (Recovers.pure a) rfl

theorem congr {bytes₁ bytes₁' : Bytes} {a₁ : α} (h : r.Agrees r' bytes bytes' a)
    (hbytes : bytes = bytes₁) (hbytes' : bytes' = bytes₁') (ha : a = a₁) :
    r.Agrees r' bytes₁ bytes₁' a₁ := by
  subst hbytes hbytes' ha
  exact h

/-- What is read second is read alike by both. -/
theorem bind (hfirst : r.Agrees r' bytes bytes' a) (hsecond : (f a).Agrees (f' a) more more' b) :
    (r >>= f).Agrees (r' >>= f') (bytes ++ more) (bytes' ++ more') b := by
  constructor
  · rw [List.length_append, List.length_append, hfirst.length, hsecond.length]
  · intro offset
    obtain hok | ⟨e, herror⟩ := hfirst.run offset
    · obtain hok' | ⟨e, herror⟩ := hsecond.run (offset + bytes.length)
      · left
        intro rest rest'
        obtain ⟨hrun, hrun'⟩ := hok (more ++ rest) (more' ++ rest')
        obtain ⟨hnext, hnext'⟩ := hok' rest rest'
        rw [List.append_assoc, List.append_assoc, run_bind, run_bind, hrun, hrun']
        simp only [hnext, hnext', List.length_append, Nat.add_assoc, and_self]
      · right
        refine ⟨e, fun rest rest' => ?_⟩
        obtain ⟨hrun, hrun'⟩ := hok (more ++ rest) (more' ++ rest')
        rw [List.append_assoc, List.append_assoc, run_bind, run_bind, hrun, hrun']
        exact herror rest rest'
    · right
      refine ⟨e, fun rest rest' => ?_⟩
      obtain ⟨hrun, hrun'⟩ := herror (more ++ rest) (more' ++ rest')
      rw [List.append_assoc, List.append_assoc, run_bind, run_bind, hrun, hrun']
      exact ⟨rfl, rfl⟩

/-- A part without bytes of its own is read last. -/
theorem bind_last (hfirst : r.Agrees r' bytes bytes' a) (hlast : (f a).Agrees (f' a) [] [] b) :
    (r >>= f).Agrees (r' >>= f') bytes bytes' b :=
  (hfirst.bind hlast).congr (List.append_nil _) (List.append_nil _) rfl

/-- Looking at the offset reads nothing. -/
theorem offset {g g' : Nat → Reader ε α} (h : ∀ n, (g n).Agrees (g' n) bytes bytes' a) :
    (Reader.offset >>= g).Agrees (Reader.offset >>= g') bytes bytes' a :=
  ⟨(h 0).length, fun n => (h n).run n⟩

/-- A check that both make comes to the same end. -/
theorem check (x : Except ε β) (a : α) :
    (ofExcept x >>= fun _ => Pure.pure a).Agrees (ofExcept x >>= fun _ => Pure.pure a) [] [] a := by
  refine ⟨rfl, fun offset => ?_⟩
  cases x with
  | ok b => exact .inl fun _ _ => ⟨rfl, rfl⟩
  | error e => exact .inr ⟨e, fun _ _ => ⟨rfl, rfl⟩⟩

/-- What both compute alike is read alike, if it can only be the value. -/
theorem ofExcept {x x' : Except ε α} (heq : x = x') (h : ∀ c, x = .ok c → c = a) :
    (Reader.ofExcept x).Agrees (Reader.ofExcept x') [] [] a := by
  subst heq
  refine ⟨rfl, fun offset => ?_⟩
  cases x with
  | ok c =>
    rw [h c rfl]
    exact .inl fun _ _ => ⟨rfl, rfl⟩
  | error e => exact .inr ⟨e, fun _ _ => ⟨rfl, rfl⟩⟩

private theorem timesFrom {encode encode' : α → Bytes} (items done : List α)
    (h : ∀ x ∈ items, r.Agrees r' (encode x) (encode' x) x) :
    (Reader.timesFrom r done items.length).Agrees (Reader.timesFrom r' done items.length)
      (items.flatMap encode) (items.flatMap encode') (done.reverse ++ items) := by
  induction items generalizing done with
  | nil => exact (pure done.reverse).congr rfl rfl (by simp)
  | cons x items ih =>
    have hhead := h x List.mem_cons_self
    have htail := ih (x :: done) fun y hy => h y (List.mem_cons_of_mem x hy)
    exact (hhead.bind htail).congr (by simp) (by simp) (by simp)

/-- Values that both read alike are read alike one after the other. -/
theorem times {encode encode' : α → Bytes} {items : List α} {n : Nat} (hn : n = items.length)
    (h : ∀ x ∈ items, r.Agrees r' (encode x) (encode' x) x) :
    (Reader.times r n).Agrees (Reader.times r' n) (items.flatMap encode) (items.flatMap encode')
      items := by
  subst hn
  exact timesFrom items [] h

/-- Values that fill their bytes are read alike, or one of them is refused by both. -/
theorem untilEndFrom {step step' : Nat → UInt8 → Reader ε α} {head : α → UInt8}
    {tail tail' : α → Bytes} (items done : List α) (offset : Nat)
    (h : ∀ x ∈ items, ∀ n, (step n (head x)).Agrees (step' n (head x)) (tail x) (tail' x) x) :
    Reader.untilEndFrom step done ⟨items.flatMap fun x => head x :: tail x, offset⟩ =
      Reader.untilEndFrom step' done ⟨items.flatMap fun x => head x :: tail' x, offset⟩ := by
  induction items generalizing done offset with
  | nil => simp [Reader.untilEndFrom]
  | cons x items ih =>
    have hrest := fun n => ih (x :: done) n fun y hy => h y (List.mem_cons_of_mem x hy)
    rw [List.flatMap_cons, List.flatMap_cons, List.cons_append, List.cons_append]
    obtain hok | ⟨e, herror⟩ := (h x List.mem_cons_self offset).run (offset + 1)
    · obtain ⟨hrun, hrun'⟩ := hok (items.flatMap fun y => head y :: tail y)
        (items.flatMap fun y => head y :: tail' y)
      rw [untilEndFrom_ok hrun, untilEndFrom_ok hrun', hrest]
    · obtain ⟨hrun, hrun'⟩ := herror (items.flatMap fun y => head y :: tail y)
        (items.flatMap fun y => head y :: tail' y)
      rw [untilEndFrom_error hrun, untilEndFrom_error hrun']

/-- Behind what both read alike, they come to the same end if they do so on the rest. -/
theorem bind_endsAlike (hfirst : r.Agrees r' bytes bytes' a)
    (hsecond : (f a).EndsAlike (f' a) more more') :
    (r >>= f).EndsAlike (r' >>= f') (bytes ++ more) (bytes' ++ more') := by
  intro offset
  rw [run_bind, run_bind]
  obtain hok | ⟨e, herror⟩ := hfirst.run offset
  · obtain ⟨hrun, hrun'⟩ := hok more more'
    rw [hrun, hrun']
    exact hsecond (offset + bytes.length)
  · obtain ⟨hrun, hrun'⟩ := herror more more'
    rw [hrun, hrun']

end Agrees

/-- What was read first may differ, as tables do in which the rest looks things up. -/
theorem Recovers.bind_agrees {a' : α} (h : r.Recovers bytes a True)
    (h' : r'.Recovers bytes' a' True) (length : bytes.length = bytes'.length)
    (hsecond : (f a).Agrees (f' a') more more' b) :
    (r >>= f).Agrees (r' >>= f') (bytes ++ more) (bytes' ++ more') b := by
  constructor
  · rw [List.length_append, List.length_append, length, hsecond.length]
  · intro offset
    have hrun (rest : Bytes) : (r >>= f).run ⟨bytes ++ more ++ rest, offset⟩ =
        (f a).run ⟨more ++ rest, offset + bytes.length⟩ := by
      rw [List.append_assoc, run_bind, h.ok trivial (more ++ rest) offset]
    have hrun' (rest : Bytes) : (r' >>= f').run ⟨bytes' ++ more' ++ rest, offset⟩ =
        (f' a').run ⟨more' ++ rest, offset + bytes.length⟩ := by
      rw [List.append_assoc, run_bind, h'.ok trivial (more' ++ rest) offset, ← length]
    simp only [hrun, hrun', List.length_append, ← Nat.add_assoc]
    exact hsecond.run (offset + bytes.length)

theorem Recovers.bind_endsAlike {a' : α} (h : r.Recovers bytes a True)
    (h' : r'.Recovers bytes' a' True) (length : bytes.length = bytes'.length)
    (hsecond : (f a).EndsAlike (f' a') more more') :
    (r >>= f).EndsAlike (r' >>= f') (bytes ++ more) (bytes' ++ more') := by
  intro offset
  have hsame := hsecond (offset + bytes.length)
  rw [run_bind, run_bind, h.ok trivial more offset, h'.ok trivial more' offset, ← length]
  exact hsame

end EntityForge.Reader
