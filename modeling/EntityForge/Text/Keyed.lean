/-!
Tables with text keys as association lists in increasing order of the keys. A key occurs at most
once; the order is that of the code points.
-/

namespace EntityForge

/-- Pairs of key and value, ordered by key. -/
abbrev Keyed (α : Type) := List (String × α)

namespace Keyed

variable {α : Type}

/-- Whether keys increase strictly. -/
def Ordered (table : Keyed α) : Prop := table.Pairwise fun a b => a.1 < b.1

def get? (table : Keyed α) (key : String) : Option α := table.lookup key

def contains (table : Keyed α) (key : String) : Bool := (table.get? key).isSome

/-- Binds a key, replacing the value it had. -/
def insert (key : String) (value : α) : Keyed α → Keyed α
  | [] => [(key, value)]
  | (k, v) :: rest =>
    if key < k then (key, value) :: (k, v) :: rest
    else if key = k then (key, value) :: rest
    else (k, v) :: insert key value rest

/-- Changes the value under a key, `absent` standing for a value not yet bound. -/
def alter (key : String) (absent : α) (f : α → α) (table : Keyed α) : Keyed α :=
  table.insert key (f ((table.get? key).getD absent))

def keys (table : Keyed α) : List String := table.map (·.1)

/-- A table from bindings, of which later ones win. -/
def ofPairs (pairs : List (String × α)) : Keyed α :=
  pairs.foldl (fun table (key, value) => table.insert key value) []

@[simp] theorem get?_nil (key : String) : get? ([] : Keyed α) key = none := rfl

theorem get?_insert_self (key : String) (value : α) (table : Keyed α) :
    (table.insert key value).get? key = some value := by
  induction table with
  | nil => simp [insert, get?]
  | cons entry rest ih =>
    obtain ⟨k, v⟩ := entry
    unfold insert
    split
    · simp [get?]
    · split
      · simp [get?]
      · next hne =>
        have hk : (key == k) = false := by simpa using hne
        simpa [get?, List.lookup_cons, hk] using ih

theorem get?_insert_of_ne {key other : String} (h : other ≠ key) (value : α) (table : Keyed α) :
    (table.insert key value).get? other = table.get? other := by
  have hok : (other == key) = false := by simpa using h
  induction table with
  | nil => simp [insert, get?, List.lookup_cons, hok]
  | cons entry rest ih =>
    obtain ⟨k, v⟩ := entry
    unfold insert
    split
    · simp [get?, List.lookup_cons, hok]
    · split
      · next heq => subst heq; simp [get?, List.lookup_cons, hok]
      · by_cases hk : other = k
        · subst hk; simp [get?]
        · have : (other == k) = false := by simpa using hk
          simpa [get?, List.lookup_cons, this] using ih

end Keyed

end EntityForge
