import Mathlib.Data.List.Perm.Basic

/-!
Interleaving. A crew are parties that take turns at something that they share. A schedule says whose
turn it is, in any order and without any fairness; what every single turn keeps, every schedule
keeps.
-/

namespace EntityForge

structure Crew (σ τ : Type) where
  shared : σ
  parties : List τ

namespace Crew

variable {σ τ α : Type}

section Turns

variable (act : σ → τ → σ × τ)

/-- One turn of one party. The others stay as they are, and a party that is not there has no turn. -/
def turn (crew : Crew σ τ) (i : Nat) : Crew σ τ :=
  match crew.parties[i]? with
  | none => crew
  | some party =>
    ⟨(act crew.shared party).1, crew.parties.set i (act crew.shared party).2⟩

/-- The turns of a schedule, one after the other. -/
def run (crew : Crew σ τ) (schedule : List Nat) : Crew σ τ := schedule.foldl (turn act) crew

end Turns

variable {act : σ → τ → σ × τ} {crew : Crew σ τ} {i : Nat} {party : τ}

theorem turn_some (h : crew.parties[i]? = some party) :
    crew.turn act i =
      ⟨(act crew.shared party).1, crew.parties.set i (act crew.shared party).2⟩ := by
  rw [turn, h]

theorem run_append (crew : Crew σ τ) (schedule later : List Nat) :
    crew.run act (schedule ++ later) = (crew.run act schedule).run act later :=
  List.foldl_append

/-- What every turn keeps. -/
theorem run_keeps {I : Crew σ τ → Prop}
    (hturn : ∀ (crew : Crew σ τ) (i : Nat) (party : τ), crew.parties[i]? = some party → I crew →
      I (crew.turn act i)) (h : I crew) (schedule : List Nat) : I (crew.run act schedule) := by
  induction schedule generalizing crew with
  | nil => exact h
  | cons i rest ih =>
    refine ih ?_
    cases hparty : crew.parties[i]? with
    | none =>
      rw [turn, hparty]
      exact h
    | some party => exact hturn crew i party hparty h

theorem run_length (crew : Crew σ τ) (schedule : List Nat) :
    (crew.run act schedule).parties.length = crew.parties.length := by
  refine run_keeps (I := fun after => after.parties.length = crew.parties.length) ?_ rfl schedule
  intro after i party hparty h
  rw [turn_some hparty, List.length_set, h]

/-- Something holds of what is shared, and of each party on what is shared. -/
structure Holds (S : σ → Prop) (P : σ → τ → Prop) (crew : Crew σ τ) : Prop where
  shared : S crew.shared
  parties : ∀ party ∈ crew.parties, P crew.shared party

/-- A turn keeps a property of single parties if it holds of the party whose turn it was, and the
others were not disturbed. -/
theorem Holds.turn {S : σ → Prop} {P : σ → τ → Prop} (h : crew.Holds S P)
    (hparty : crew.parties[i]? = some party) (hshared : S (act crew.shared party).1)
    (hself : P (act crew.shared party).1 (act crew.shared party).2)
    (hothers : ∀ other, P crew.shared other → P (act crew.shared party).1 other) :
    (crew.turn act i).Holds S P := by
  rw [turn_some hparty]
  refine ⟨hshared, ?_⟩
  intro other hother
  rcases List.mem_or_eq_of_mem_set hother with hold | rfl
  · exact hothers other (h.parties other hold)
  · exact hself

/-- A party that does nothing any more stays as it is. -/
theorem run_idle (hidle : ∀ s, act s party = (s, party)) (h : crew.parties[i]? = some party)
    (schedule : List Nat) : (crew.run act schedule).parties[i]? = some party := by
  refine run_keeps (I := fun crew => crew.parties[i]? = some party) ?_ h schedule
  intro crew j other hother h
  rw [turn_some hother]
  change (crew.parties.set j (act crew.shared other).2)[i]? = some party
  by_cases hsame : j = i
  · subst hsame
    cases h.symm.trans hother
    rw [hidle, List.getElem?_set_self (List.getElem?_eq_some_iff.mp h).1]
  · rw [List.getElem?_set_ne hsame, h]

/-- A number that every turn of a party takes down, and that no turn of another takes up, is as low
as the turns of the party allow. -/
theorem run_measure {μ : σ → τ → Nat} (hown : ∀ s t, μ (act s t).1 (act s t).2 ≤ μ s t - 1)
    (hother : ∀ s t u, μ (act s t).1 u ≤ μ s u) (h : crew.parties[i]? = some party)
    (schedule : List Nat) :
    ∃ party', (crew.run act schedule).parties[i]? = some party' ∧
      μ (crew.run act schedule).shared party' ≤ μ crew.shared party - schedule.count i := by
  induction schedule generalizing crew party with
  | nil => exact ⟨party, h, Nat.le_refl _⟩
  | cons j rest ih =>
    cases hparty : crew.parties[j]? with
    | none =>
      have hidle : crew.turn act j = crew := by rw [turn, hparty]
      have hne : j ≠ i := by
        rintro rfl
        cases hparty.symm.trans h
      rw [run, List.foldl_cons, hidle, List.count_cons_of_ne hne]
      exact ih h
    | some other =>
      rw [run, List.foldl_cons, turn_some hparty]
      by_cases hsame : j = i
      · subst hsame
        cases h.symm.trans hparty
        have hnext := hown crew.shared party
        have hself : (Crew.mk (act crew.shared party).1
            (crew.parties.set j (act crew.shared party).2)).parties[j]? =
              some (act crew.shared party).2 :=
          List.getElem?_set_self (List.getElem?_eq_some_iff.mp h).1
        obtain ⟨party', hget, hle⟩ := ih hself
        refine ⟨party', hget, Nat.le_trans hle ?_⟩
        rw [List.count_cons_self]
        change μ (act crew.shared party).1 (act crew.shared party).2 - rest.count j ≤ _
        omega
      · have hnext := hother crew.shared other party
        have hstays : (Crew.mk (act crew.shared other).1
            (crew.parties.set j (act crew.shared other).2)).parties[i]? = some party :=
          (List.getElem?_set_ne hsame).trans h
        obtain ⟨party', hget, hle⟩ := ih hstays
        refine ⟨party', hget, Nat.le_trans hle ?_⟩
        rw [List.count_cons_of_ne hsame]
        exact Nat.sub_le_sub_right hnext _

/-- What the parties hold together grows by what the turn of one of them adds. -/
theorem flatMap_set_perm {parties : List τ} (h : parties[i]? = some party) {f : τ → List α}
    {party' : τ} {added : List α} (hadded : (f party').Perm (f party ++ added)) :
    ((parties.set i party').flatMap f).Perm (parties.flatMap f ++ added) := by
  induction parties generalizing i with
  | nil => cases h
  | cons first rest ih =>
    cases i with
    | zero =>
      cases h
      rw [List.set_cons_zero, List.flatMap_cons, List.flatMap_cons]
      refine (hadded.append_right _).trans ?_
      rw [List.append_assoc, List.append_assoc]
      exact (List.perm_append_comm).append_left _
    | succ i =>
      rw [List.set_cons_succ, List.flatMap_cons, List.flatMap_cons, List.append_assoc]
      exact (ih h).append_left _

end Crew

end EntityForge
