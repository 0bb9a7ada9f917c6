import EntityForge.Bytes.BigEndian

/-!
Reading byte strings from the front. A reader consumes some of the bytes and never invents any: what
is left is a tail of what was there, and the offset grows by what was consumed. Both facts are part
of the type, so that a loop over a reader ends because its input shrinks.
-/

namespace EntityForge

/-- The bytes still to be read and the offset of the first of them. -/
structure Cursor where
  rest : Bytes
  offset : Nat

/-- A cursor reached from another one by consuming bytes. -/
structure Cursor.Reaches (c d : Cursor) : Prop where
  suffix : d.rest <:+ c.rest
  offset : d.offset + d.rest.length = c.offset + c.rest.length

namespace Cursor.Reaches

theorem refl (c : Cursor) : c.Reaches c := ⟨List.suffix_refl _, rfl⟩

theorem trans {c d e : Cursor} (h : c.Reaches d) (h' : d.Reaches e) : c.Reaches e :=
  ⟨h'.suffix.trans h.suffix, h'.offset.trans h.offset⟩

theorem length_le {c d : Cursor} (h : c.Reaches d) : d.rest.length ≤ c.rest.length :=
  h.suffix.length_le

end Cursor.Reaches

structure Reader (ε α : Type) where
  run : Cursor → Except ε (α × Cursor)
  reaches : ∀ {c d a}, run c = .ok (a, d) → c.Reaches d

namespace Reader

variable {ε α β : Type}

def pure (a : α) : Reader ε α where
  run c := .ok (a, c)
  reaches h := by cases h; exact .refl _

def fail (e : ε) : Reader ε α where
  run _ := .error e
  reaches h := by cases h

def bind (r : Reader ε α) (f : α → Reader ε β) : Reader ε β where
  run c :=
    match r.run c with
    | .ok (a, d) => (f a).run d
    | .error e => .error e
  reaches {c _ _} h := by
    cases hr : r.run c with
    | error e => simp [hr] at h
    | ok p =>
      obtain ⟨a, d⟩ := p
      simp only [hr] at h
      exact (r.reaches hr).trans ((f a).reaches h)

instance : Monad (Reader ε) where
  pure := pure
  bind := bind

/-- Reads nothing and fails if a check did. -/
def ofExcept : Except ε α → Reader ε α
  | .ok a => pure a
  | .error e => fail e

def offset : Reader ε Nat where
  run c := .ok (c.offset, c)
  reaches h := by cases h; exact .refl _

/-- Reads `n` bytes; `eof` is the error at the offset of the first of them when they are not
there. -/
def take (eof : Nat → ε) (n : Nat) : Reader ε Bytes where
  run c :=
    let bytes := c.rest.take n
    if bytes.length = n then .ok (bytes, ⟨c.rest.drop n, c.offset + n⟩) else .error (eof c.offset)
  reaches {c _ _} h := by
    dsimp only at h
    split at h
    · next hn =>
      cases h
      refine ⟨List.drop_suffix _ _, ?_⟩
      simp only [List.length_take] at hn
      simp only [List.length_drop]
      omega
    · cases h

def atEnd : Reader ε Bool where
  run c := .ok (c.rest.isEmpty, c)
  reaches h := by cases h; exact .refl _

def remaining : Reader ε Nat where
  run c := .ok (c.rest.length, c)
  reaches h := by cases h; exact .refl _

/-- Reads `n` values; `done` holds the reversed values before them. -/
def timesFrom (r : Reader ε α) (done : List α) : Nat → Reader ε (List α)
  | 0 => pure done.reverse
  | n + 1 => bind r fun a => timesFrom r (a :: done) n

def times (r : Reader ε α) (n : Nat) : Reader ε (List α) := timesFrom r [] n

/-- Reads values up to the end of the bytes. Each begins with a byte that tells, with its offset,
how to go on; `done` holds the reversed values before them. -/
def untilEndFrom (step : Nat → UInt8 → Reader ε α) (done : List α) (c : Cursor) :
    Except ε (List α) :=
  match _h : c.rest with
  | [] => .ok done.reverse
  | b :: rest =>
    match _hs : (step c.offset b).run ⟨rest, c.offset + 1⟩ with
    | .ok (a, d) => untilEndFrom step (a :: done) d
    | .error e => .error e
termination_by c.rest.length
decreasing_by
  have := ((step c.offset b).reaches _hs).length_le
  simp only [_h, List.length_cons] at *
  omega

def untilEnd (step : Nat → UInt8 → Reader ε α) (c : Cursor) : Except ε (List α) :=
  untilEndFrom step [] c

end Reader

end EntityForge
