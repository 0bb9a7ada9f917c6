import EntityForge.Proofs.Type.Resolving

/-!
The types of getters and setters. Their descriptors are spelled around the descriptor of a type, and
no type is spelled like the beginning of another one; so a descriptor of a getter always resolves,
and one of a setter resolves to nothing but a method that takes that type.
-/

namespace EntityForge

namespace Signature

open TypeTree

/-- A type is resolved from its signature only. -/
theorem spelled_of_parseType {s : String} {t : TypeTree} (h : parseType s = .ok t) :
    t.WellFormed ∧ s.toList = t.signatureChars := by
  obtain ⟨_, hformed, hs⟩ := parseTypes_ok_iff.mp (parseType_ok_iff.mp h)
  rw [join_signature, signatureListChars, signatureListChars, List.append_nil] at hs
  exact ⟨hformed t List.mem_cons_self, by rw [hs, String.toList_ofList]⟩

/-- A well-formed type is resolved from its signature. -/
theorem parseType_signature {t : TypeTree} (h : t.WellFormed) : parseType t.signature = .ok t := by
  refine parseType_ok_iff.mpr (parseTypes_ok_iff.mpr ⟨List.cons_ne_nil _ _, ?_, ?_⟩)
  · exact List.forall_mem_singleton.mpr h
  · rw [List.map_singleton, String.join_cons, String.join_nil, String.append_empty]

/-- A well-formed type is resolved at the outermost level, whatever follows it. -/
theorem outermost_spelled {t : TypeTree} (h : t.WellFormed) (pos : Nat) {cs rest : List Char}
    (hcs : cs = t.signatureChars ++ rest) :
    ∃ r, outermost pos cs = .ok r ∧ r.tree = t ∧ r.rest = rest := by
  subst hcs
  exact (typeAt_settles (maxDepth + 1) t h.grammatical pos rest).ok (Nat.lt_succ_of_le h.nesting)

/-- No type is spelled like the beginning of another one. -/
theorem rest_of_prefix {t u : TypeTree} (ht : t.WellFormed) (hu : u.WellFormed)
    {rest : List Char} (h : t.signatureChars = u.signatureChars ++ rest) : rest = [] := by
  obtain ⟨r, hr, _, hrest⟩ := outermost_spelled ht 0 (List.append_nil _).symm
  obtain ⟨r', hr', _, hrest'⟩ := outermost_spelled hu 0 h
  cases hr.symm.trans hr'
  exact hrest'.symm.trans hrest

/-- No type starts like what stands for no result, or with a closing parenthesis. -/
theorem signatureChars_head {t : TypeTree} (h : t.WellFormed) (rest : List Char) :
    t.signatureChars ≠ 'V' :: rest ∧ t.signatureChars ≠ ')' :: rest := by
  constructor <;>
  · intro heq
    obtain ⟨r, hr, _⟩ := outermost_spelled h 0 (heq.symm.trans (List.append_nil _).symm)
    cases hr

end Signature

namespace MethodType

open Signature TypeTree

/-- A method type was resolved from a text: its types are well-formed, and its signature is what was
read, up to a throws clause that may follow. -/
structure Spelled (cs : List Char) (type : MethodType) (throws : List Char) : Prop where
  text : cs = type.signatureChars ++ throws
  params : ∀ t ∈ type.params, t.WellFormed
  result : ∀ t ∈ type.result, t.WellFormed
  throws : ∀ c ∈ throws.head?, c = '^'

/-- Whatever is resolved behind the parameters was spelled there. -/
theorem resultAt_ok {params : List TypeTree} {pos : Nat} {cs : List Char} {type : MethodType}
    (hparams : ∀ t ∈ params, t.WellFormed) (h : resultAt params pos cs = .ok type) :
    ∃ throws, Spelled ('(' :: signatureListChars params ++ ')' :: cs) type throws := by
  unfold resultAt at h
  dsimp only at h
  split at h
  · split at h
    · cases h
      exact ⟨[], by simp [signatureChars], hparams, nofun, nofun⟩
    · next rest =>
      cases h
      exact ⟨'^' :: rest, by simp [signatureChars], hparams, nofun, by simp⟩
    · cases h
  · split at h
    · cases h
    · next r hr =>
      obtain ⟨htext, hgrammatical, hnesting⟩ := typeAt_spelled hr
      have hresult : ∀ t ∈ some r.tree, t.WellFormed := by
        rintro _ ⟨⟩
        exact ⟨hgrammatical, Nat.le_of_lt_succ hnesting⟩
      split at h
      · next hrest =>
        cases h
        exact ⟨[], by simp [signatureChars, htext, hrest], hparams, hresult, nofun⟩
      · next rest hrest =>
        cases h
        exact ⟨'^' :: rest, by simp [signatureChars, htext, hrest], hparams, hresult, by simp⟩
      · cases h

theorem closing_of_dropWhile {cs rest : List Char} {c : Char}
    (h : cs.dropWhile (· ≠ ')') = c :: rest) : c = ')' := by
  have hsome : cs.dropWhile (· ≠ ')') ≠ [] := h ▸ List.cons_ne_nil _ _
  have hhead := List.head_dropWhile_not (fun c => decide (c ≠ ')')) hsome
  simp only [h, List.head_cons] at hhead
  simpa using hhead

/-- Whatever is resolved as a method was spelled by the text. -/
theorem parse_ok {s : String} {type : MethodType} (h : parse s = .ok type) :
    ∃ throws, Spelled s.toList type throws := by
  unfold parse at h
  split at h
  · cases h
  · cases h
  · next cs hs =>
    dsimp only at h
    have hsplit := List.takeWhile_append_dropWhile (p := fun c => decide (c ≠ ')')) (l := cs)
    split at h
    · cases h
    · next c rest hdrop =>
      split at h
      · cases h
      · next params hparams =>
        obtain ⟨_, rfl, hinside, hgrammatical, hnesting⟩ :=
          typesIn_spelled (fun _ _ _ hr => typeAt_spelled hr) hparams
        have hclose := closing_of_dropWhile hdrop
        have htext : s.toList = '(' :: signatureListChars params ++ ')' :: rest := by
          rw [hs, ← hsplit, hinside, hdrop, hclose, List.cons_append]
        rw [htext]
        exact resultAt_ok (fun t ht => ⟨hgrammatical t ht, Nat.le_of_lt_succ (hnesting t ht)⟩) h
  · cases h

/-- The parameters of a method end at the first closing parenthesis. -/
theorem parse_cut {s : String} {inside rest : List Char}
    (hs : s.toList = '(' :: (inside ++ ')' :: rest)) (hinside : ')' ∉ inside) :
    parse s =
      match typesIn outermost 1 [] inside with
      | .error e => .error e
      | .ok params => resultAt params (2 + byteLength inside) rest := by
  have hall : ∀ c ∈ inside, decide (c ≠ ')') = true := by
    intro c hc
    apply decide_eq_true
    rintro rfl
    exact hinside hc
  have htake : (inside ++ ')' :: rest).takeWhile (· ≠ ')') = inside := by
    rw [List.takeWhile_append_of_pos hall]
    simp
  have hdrop : (inside ++ ')' :: rest).dropWhile (· ≠ ')') = ')' :: rest := by
    rw [List.dropWhile_append_of_pos hall]
    simp
  unfold parse
  cases htypes : typesIn outermost 1 [] inside <;> simp only [hs, htake, hdrop, htypes]

/-- A result is resolved from its signature. -/
theorem resultAt_spelled {t : TypeTree} (h : t.WellFormed) (params : List TypeTree) (pos : Nat) :
    resultAt params pos t.signatureChars = .ok ⟨params, some t⟩ := by
  obtain ⟨r, hr, htree, hrest⟩ := outermost_spelled h pos (List.append_nil _).symm
  unfold resultAt
  dsimp only
  split
  · next rest heq => exact absurd heq (signatureChars_head h rest).1
  · rw [hr]
    dsimp only
    rw [hrest, htree]

/-- A method is resolved from its signature, unless a parameter hides a closing parenthesis in a
name, where the parameters would end. -/
theorem parse_of_signatureChars {s : String} {m : MethodType} (hparams : ∀ t ∈ m.params, t.WellFormed)
    (hresult : ∀ t ∈ m.result, t.WellFormed) (hparen : ')' ∉ signatureListChars m.params)
    (hs : s.toList = m.signatureChars) : parse s = .ok m := by
  obtain ⟨params, result⟩ := m
  have htypes := (typesIn_settles (typeAt_settles (maxDepth + 1))
    (fun t ht => (hparams t ht).grammatical) 1 []).1
    fun t ht => Nat.lt_succ_of_le (hparams t ht).nesting
  have hresolved : typesIn outermost 1 [] (signatureListChars params) = .ok params := htypes
  have htext : s.toList = '(' :: (signatureListChars params ++
      ')' :: result.elim ['V'] TypeTree.signatureChars) := by
    rw [hs]
    cases result <;> rfl
  rw [parse_cut htext hparen, hresolved]
  cases result with
  | none => rfl
  | some t => exact resultAt_spelled (hresult t rfl) params _

/-- The parameters stand as they were given to what resolves the result. -/
theorem resultAt_params {params : List TypeTree} {pos : Nat} {cs : List Char} {m : MethodType}
    (h : resultAt params pos cs = .ok m) : m.params = params := by
  unfold resultAt at h
  dsimp only at h
  split at h
  · split at h <;> cases h <;> rfl
  · split at h
    · cases h
    · split at h <;> cases h <;> rfl

/-- Parameters that were resolved hide no closing parenthesis: they ended at the first one. -/
theorem parse_unparenthesized {s : String} {m : MethodType} (h : parse s = .ok m) :
    ')' ∉ signatureListChars m.params := by
  unfold parse at h
  split at h
  · cases h
  · cases h
  · next cs hs =>
    dsimp only at h
    split at h
    · cases h
    · split at h
      · cases h
      · next params hparams =>
        obtain ⟨_, rfl, hinside, _⟩ := typesIn_spelled (fun _ _ _ hr => typeAt_spelled hr) hparams
        rw [resultAt_params h, ← hinside]
        intro hparen
        simpa using List.mem_takeWhile_imp hparen
  · cases h

/-- Whatever is resolved as a method, its signature stands at the head of the text, nothing but a
throws clause follows it, and it is resolved to the same method again. -/
theorem parse_front {s : String} {m : MethodType} (h : parse s = .ok m) :
    (∃ throws, s = m.signature ++ throws ∧ (throws = "" ∨ throws.toList.head? = some '^')) ∧
      parse m.signature = .ok m := by
  obtain ⟨throws, hspelled⟩ := parse_ok h
  have hagain : parse m.signature = .ok m :=
    parse_of_signatureChars hspelled.params hspelled.result (parse_unparenthesized h)
      String.toList_ofList
  refine ⟨⟨String.ofList throws, ?_, ?_⟩, hagain⟩
  · rw [signature, ← String.ofList_append, ← hspelled.text, String.ofList_toList]
  · cases throws with
    | nil => exact .inl rfl
    | cons c rest =>
      rw [String.toList_ofList, List.head?_cons, hspelled.throws c rfl]
      exact .inr rfl

/-- A variable whose name looks like a throws clause, another one with a parenthesis in its name,
and a throws clause. -/
theorem parse_front_variables :
    let m : MethodType := ⟨[{ ofVariable "^A" with dims := 1 }], some (ofVariable "B)^")⟩
    parse "([T^A;)TB)^;^TE;" = .ok m ∧
      (∃ throws, "([T^A;)TB)^;^TE;" = m.signature ++ throws ∧
        (throws = "" ∨ throws.toList.head? = some '^')) ∧
      parse "([T^A;)TB)^;" = .ok m := by
  intro m
  have hparse : parse "([T^A;)TB)^;^TE;" = .ok m := by decide +kernel
  have hsignature : m.signature = "([T^A;)TB)^;" := by decide +kernel
  obtain ⟨hfront, hagain⟩ := parse_front hparse
  exact ⟨hparse, hfront, hsignature ▸ hagain⟩

/-- The descriptor of a getter resolves. -/
theorem parse_returning {s : String} {t : TypeTree} (h : parseType s = .ok t) :
    parse ("()" ++ s) = .ok ⟨[], some t⟩ := by
  obtain ⟨hformed, hs⟩ := spelled_of_parseType h
  have hresult : ∀ u ∈ some t, u.WellFormed := by
    rintro _ ⟨⟩
    exact hformed
  refine parse_of_signatureChars (List.forall_mem_nil _) hresult List.not_mem_nil ?_
  simp [hs, signatureChars, signatureListChars]

/-- The descriptor of a setter resolves to a method that takes the type, if it resolves. -/
theorem parse_storing {s : String} {t : TypeTree} {type : MethodType} (h : parseType s = .ok t)
    (hparse : parse ("(" ++ s ++ ")V") = .ok type) : type = ⟨[t], none⟩ := by
  obtain ⟨hformed, hs⟩ := spelled_of_parseType h
  by_cases hparen : ')' ∈ t.signatureChars
  · -- What stands before the parenthesis would be types, of which the first is the whole type.
    obtain ⟨before, after, hsplit, hbefore⟩ := List.eq_append_cons_of_mem hparen
    have htext : ("(" ++ s ++ ")V").toList =
        '(' :: (before ++ ')' :: (after ++ [')', 'V'])) := by
      simp [hs, hsplit]
    rw [parse_cut htext hbefore] at hparse
    split at hparse
    · cases hparse
    · next params hparams =>
      obtain ⟨_, rfl, hspelled, hgrammatical, hnesting⟩ :=
        typesIn_spelled (fun _ _ _ hr => typeAt_spelled hr) hparams
      cases params with
      | nil =>
        rw [hspelled, signatureListChars, List.nil_append] at hsplit
        exact absurd hsplit (signatureChars_head hformed after).2
      | cons u us =>
        have hu : u.WellFormed :=
          ⟨hgrammatical u List.mem_cons_self, Nat.le_of_lt_succ (hnesting u List.mem_cons_self)⟩
        rw [hspelled, signatureListChars, List.append_assoc] at hsplit
        have hnone := rest_of_prefix hformed hu hsplit
        simp at hnone
  · have hsingle : signatureListChars [t] = t.signatureChars := by
      rw [signatureListChars, signatureListChars, List.append_nil]
    have hstoring : parse ("(" ++ s ++ ")V") = .ok ⟨[t], none⟩ := by
      refine parse_of_signatureChars (List.forall_mem_singleton.mpr hformed) ?_ (hsingle ▸ hparen) ?_
      · rintro _ ⟨⟩
      · simp [hs, signatureChars, hsingle]
    cases hparse.symm.trans hstoring
    rfl

end MethodType

end EntityForge
