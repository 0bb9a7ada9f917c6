import EntityForge.Proofs.Type.Grammar

/-!
Resolving accepts exactly the grammar. The signature of a grammatical type is resolved to that type
whatever follows it, unless it nests too deep, which is then the only fault; so a text is resolved
exactly if it is the concatenation of signatures, and no two lists of types are spelled alike.
-/

namespace EntityForge

namespace TypeTree

/-- A type without its bound and its dimensions. -/
def bare (t : TypeTree) : TypeTree := { t with dims := 0, bound := .exact }

theorem restored (t : TypeTree) : { t.bare with dims := t.dims, bound := t.bound } = t := by
  obtain ⟨raw, args, dims, kind, bound⟩ := t
  rfl

/-- The shapes of a formed node: what it is without bound and dimensions, and how it is spelled. -/
inductive Shape (t : TypeTree) : Prop
  | primitive (p : Primitive) (value : p ≠ .void) (bare : t.bare = ofPrimitive p)
      (chars : t.elementChars = [p.letter])
  | classType (named : t.raw ≠ "") (unmarked : ∀ c ∈ t.raw.toList, c ∉ classMarks)
      (bare : t.bare = { ofClass t.raw with args := t.args })
      (chars : t.elementChars = 'L' :: (slashed t.raw ++ argumentChars t.args ++ [';']))
  | variable (named : t.raw ≠ "") (unmarked : ∀ c ∈ t.raw.toList, c ∉ variableMarks)
      (bare : t.bare = ofVariable t.raw) (chars : t.elementChars = 'T' :: (t.raw.toList ++ [';']))
  | wildcard (eq : t = anyType)

theorem Formed.shape {t : TypeTree} (h : t.Formed) : t.Shape := by
  obtain ⟨raw, args, dims, kind, bound⟩ := t
  cases kind with
  | primitive p =>
    obtain ⟨hvalue, rfl, rfl⟩ := h
    exact .primitive p hvalue rfl rfl
  | classType =>
    obtain ⟨hnamed, hunmarked⟩ := h
    exact .classType hnamed hunmarked rfl rfl
  | «variable» =>
    obtain ⟨hnamed, hunmarked, rfl⟩ := h
    exact .variable hnamed hunmarked rfl rfl
  | wildcard =>
    obtain ⟨rfl, rfl, rfl, rfl⟩ := h
    exact .wildcard rfl

theorem Formed.eq_anyType {t : TypeTree} (h : t.Formed) (hkind : t.kind = .wildcard) :
    t = anyType := by
  obtain ⟨raw, args, dims, kind, bound⟩ := t
  cases hkind
  obtain ⟨rfl, rfl, rfl, rfl⟩ := h
  rfl

theorem signatureChars_ne_nil (t : TypeTree) : t.signatureChars ≠ [] := by
  rw [signatureChars_eq]
  unfold elementChars
  cases t.kind <;> simp

/-- A character of a class name as it is written, which is no mark of the grammar. -/
theorem slashed_unmarked {name : String} (h : ∀ c ∈ name.toList, c ∉ classMarks) :
    ∀ c ∈ slashed name, Signature.isClassNameChar c = true := by
  unfold slashed
  rw [List.forall_mem_map]
  exact fun c hc => Signature.isClassNameChar_of_unmarked (h c hc)

theorem dotted_slashed {name : String} (h : ∀ c ∈ name.toList, c ∉ classMarks) :
    dotted (slashed name) = name := by
  have hback : (slashed name).map (fun c => if c = '/' then '.' else c) = name.toList := by
    unfold slashed
    rw [List.map_map]
    refine (List.map_congr_left fun c hc => ?_).trans (List.map_id _)
    have hslash : c ≠ '/' := by
      rintro rfl
      exact h '/' hc (by decide)
    by_cases hdot : c = '.' <;> simp [hdot, hslash]
  rw [dotted, hback, String.ofList_toList]

end TypeTree

namespace Signature

open TypeTree

/-! The scan for a closing bracket. -/

/-- A scan for a closing bracket passes over a text, however many brackets are open. -/
def PassedOver (text : List Char) : Prop :=
  ∀ depth more, splitClosing (depth + 1) (text ++ more) =
    (splitClosing (depth + 1) more).map fun (inner, after) => (text ++ inner, after)

namespace PassedOver

variable {text more : List Char}

theorem nil : PassedOver [] := by
  intro depth more
  cases h : splitClosing (depth + 1) more <;> simp [h]

theorem append (htext : PassedOver text) (hmore : PassedOver more) :
    PassedOver (text ++ more) := by
  intro depth after
  rw [List.append_assoc, htext, hmore, Option.map_map]
  simp [Function.comp_def]

/-- A text without angle brackets. -/
theorem plain (h : ∀ c ∈ text, c ≠ '<' ∧ c ≠ '>') : PassedOver text := by
  induction text with
  | nil => exact nil
  | cons c text ih =>
    obtain ⟨⟨hopen, hclose⟩, hrest⟩ := List.forall_mem_cons.mp h
    intro depth more
    rw [List.cons_append, splitClosing, ih hrest, Option.map_map]
    · rfl
    · exact hopen
    · exact hclose

/-- A text in brackets: the scan is one bracket deeper inside it. -/
theorem bracketed (h : PassedOver text) : PassedOver ('<' :: text ++ ['>']) := by
  intro depth more
  have hinside := h (depth + 1) ('>' :: more)
  rw [splitClosing, if_neg (by omega), Nat.add_sub_cancel, Option.map_map] at hinside
  rw [List.append_assoc, List.cons_append, splitClosing, List.singleton_append, hinside,
    Option.map_map]
  simp [Function.comp_def]

theorem flatMap {α : Type} {items : List α} {chars : α → List Char}
    (h : ∀ x ∈ items, PassedOver (chars x)) : PassedOver (items.flatMap chars) := by
  induction items with
  | nil => exact nil
  | cons x items ih =>
    obtain ⟨hx, hitems⟩ := List.forall_mem_cons.mp h
    exact hx.append (ih hitems)

/-- A text that is passed over ends at the first closing bracket after it. -/
theorem closed (h : PassedOver text) (rest : List Char) :
    splitClosing 1 (text ++ '>' :: rest) = some (text, rest) := by
  rw [h 0, splitClosing]
  simp

end PassedOver

/-- No name contains an angle bracket, and those around arguments match; so a scan is never
misled by a type. -/
theorem passedOver_signature {t : TypeTree} (h : t.Grammatical) :
    PassedOver t.signatureChars := by
  induction h with
  | @node t hformed _ ih =>
    have hbound : PassedOver (boundMark t.bound) := by
      refine .plain ?_
      cases t.bound <;> simp [boundMark]
    have hbrackets : PassedOver (brackets t.dims) :=
      .plain fun c hc => List.eq_of_mem_replicate hc ▸ by decide
    have hname {marks : List Char} (hopen : '<' ∈ marks) (hclose : '>' ∈ marks) {c : Char}
        (hc : c ∉ marks) : c ≠ '<' ∧ c ≠ '>' :=
      ⟨fun heq => hc (heq ▸ hopen), fun heq => hc (heq ▸ hclose)⟩
    have hletter (c : Char) (hc : c ≠ '<' ∧ c ≠ '>') : PassedOver [c] :=
      .plain (List.forall_mem_singleton.mpr hc)
    rw [signatureChars_eq]
    refine (hbound.append hbrackets).append ?_
    cases hformed.shape with
    | primitive p _ _ hchars =>
      rw [hchars]
      exact hletter _ (by cases p <;> decide)
    | wildcard heq =>
      rw [heq]
      exact hletter '*' (by decide)
    | «variable» _ hunmarked _ hchars =>
      have hraw : PassedOver t.raw.toList :=
        .plain fun c hc => hname (by decide) (by decide) (hunmarked c hc)
      rw [hchars]
      exact (hletter 'T' (by decide)).append (hraw.append (hletter ';' (by decide)))
    | classType _ hunmarked _ hchars =>
      have hmarks : ∀ c, isClassNameChar c = true → c ≠ '<' ∧ c ≠ '>' := by
        rintro c hc
        constructor <;> rintro rfl <;> cases hc
      have hraw : PassedOver (slashed t.raw) :=
        .plain fun c hc => hmarks c (slashed_unmarked hunmarked c hc)
      have harguments : PassedOver (argumentChars t.args) := by
        unfold argumentChars
        split
        · exact .nil
        · rw [signatureListChars_eq]
          exact (PassedOver.flatMap ih).bracketed
      rw [hchars]
      exact (hletter 'L' (by decide)).append
        ((hraw.append harguments).append (hletter ';' (by decide)))

theorem passedOver_signatures {ts : List TypeTree} (h : ∀ t ∈ ts, t.Grammatical) :
    PassedOver (signatureListChars ts) := by
  rw [signatureListChars_eq]
  exact .flatMap fun t ht => passedOver_signature (h t ht)

/-! Resolving a signature. -/

/-- What resolving an input comes to: a type and the rest behind it if the type fits into the
levels that are left, and otherwise nothing but that it does not. -/
structure Settles (resolve : (cs : List Char) → Resolution cs) (cs : List Char) (t : TypeTree)
    (rest : List Char) (fits : Prop) : Prop where
  ok : fits → ∃ r, resolve cs = .ok r ∧ r.tree = t ∧ r.rest = rest
  tooDeep : ¬ fits → resolve cs = .error .tooDeep

/-- Resolving settles every signature of a grammatical type by the levels it nests. -/
def Follows (levels : Nat) (one : Nat → (cs : List Char) → Resolution cs) : Prop :=
  ∀ t : TypeTree, t.Grammatical → ∀ pos rest,
    Settles (one pos) (t.signatureChars ++ rest) t rest (t.nesting < levels)

/-- Types in turn are all resolved, or one of them nests too deep. -/
theorem typesIn_settles {levels : Nat} {one : Nat → (cs : List Char) → Resolution cs}
    (hone : Follows levels one) {ts : List TypeTree} (h : ∀ t ∈ ts, t.Grammatical) (pos : Nat)
    (done : List TypeTree) :
    ((∀ t ∈ ts, t.nesting < levels) →
      typesIn one pos done (signatureListChars ts) = .ok (done.reverse ++ ts)) ∧
    ((¬ ∀ t ∈ ts, t.nesting < levels) →
      typesIn one pos done (signatureListChars ts) = .error .tooDeep) := by
  induction ts generalizing pos done with
  | nil => simp [signatureListChars, typesIn]
  | cons t ts ih =>
    obtain ⟨ht, hts⟩ := List.forall_mem_cons.mp h
    obtain ⟨hok, htooDeep⟩ := hone t ht pos (signatureListChars ts)
    obtain ⟨c, cs, hchars⟩ := List.exists_cons_of_ne_nil (signatureChars_ne_nil t)
    rw [signatureListChars]
    rw [hchars, List.cons_append] at hok htooDeep ⊢
    rw [typesIn, List.forall_mem_cons]
    by_cases hfits : t.nesting < levels
    · obtain ⟨r, hr, htree, hrest⟩ := hok hfits
      obtain ⟨hall, hsome⟩ := ih hts r.next (r.tree :: done)
      simp only [hr, hrest, hfits, true_and]
      refine ⟨fun hdeep => ?_, hsome⟩
      rw [hall hdeep, htree]
      simp
    · simp [htooDeep hfits, hfits]

private theorem takeWhile_name {p : Char → Bool} {name : List Char} {c : Char}
    (hname : ∀ d ∈ name, p d = true) (hc : p c = false) (rest : List Char) :
    (name ++ c :: rest).takeWhile p = name ∧ (name ++ c :: rest).dropWhile p = c :: rest := by
  rw [List.takeWhile_append_of_pos hname, List.dropWhile_append_of_pos hname]
  simp [hc]

theorem variableAt_settles {name : String} (hnamed : name ≠ "")
    (hunmarked : ∀ c ∈ name.toList, c ∉ variableMarks) (pos : Nat) (rest : List Char) :
    Settles (variableAt pos) (name.toList ++ ';' :: rest) (.ofVariable name) rest True := by
  have hchars : ∀ c ∈ name.toList, isVariableNameChar c = true :=
    fun c hc => isVariableNameChar_iff.mpr (hunmarked c hc)
  obtain ⟨htake, hdrop⟩ := takeWhile_name hchars (c := ';') (by decide) rest
  refine ⟨fun _ => ?_, fun h => absurd trivial h⟩
  unfold variableAt
  dsimp only
  split
  · next hrest =>
    cases hdrop.symm.trans hrest
    rw [if_neg (by simpa [htake] using hnamed)]
    exact ⟨_, rfl, by rw [htake, String.ofList_toList], rfl⟩
  · next hother => exact absurd hdrop (hother rest)

theorem classAt_plain (inner : Nat → (cs : List Char) → Resolution cs) {name : String}
    (hnamed : name ≠ "") (hunmarked : ∀ c ∈ name.toList, c ∉ classMarks) (pos : Nat)
    (rest : List Char) :
    Settles (classAt inner pos) (slashed name ++ ';' :: rest) (.ofClass name) rest True := by
  have hchars := slashed_unmarked hunmarked
  obtain ⟨htake, hdrop⟩ := takeWhile_name hchars (c := ';') (by decide) rest
  have hnonempty : (slashed name).isEmpty = false := by simpa [slashed] using hnamed
  refine ⟨fun _ => ?_, fun h => absurd trivial h⟩
  unfold classAt
  dsimp only
  split
  · next hrest =>
    cases hdrop.symm.trans hrest
    rw [if_neg (by rw [htake, hnonempty]; decide)]
    exact ⟨_, rfl, by rw [htake, dotted_slashed hunmarked], rfl⟩
  · next hrest => cases hdrop.symm.trans hrest
  · next hrest => cases hdrop.symm.trans hrest
  · next hother _ _ => exact absurd hdrop (hother rest)

/-- A class with arguments comes to what resolving them comes to. -/
theorem classAt_bracketed (inner : Nat → (cs : List Char) → Resolution cs) {name : String}
    (hnamed : name ≠ "") (hunmarked : ∀ c ∈ name.toList, c ∉ classMarks) {inside : List Char}
    (hsome : inside ≠ []) (hinside : PassedOver inside) (pos : Nat) (rest : List Char) :
    let text := slashed name ++ '<' :: (inside ++ '>' :: ';' :: rest)
    let arguments := typesIn inner (pos + byteLength (slashed name) + 1) [] inside
    (∀ args, arguments = .ok args → ∃ r, classAt inner pos text = .ok r ∧
      r.tree = { TypeTree.ofClass name with args := args } ∧ r.rest = rest) ∧
    ∀ e, arguments = .error e → classAt inner pos text = .error e := by
  intro text arguments
  have hchars := slashed_unmarked hunmarked
  obtain ⟨htake, hdrop⟩ :=
    takeWhile_name hchars (c := '<') (by decide) (inside ++ '>' :: ';' :: rest)
  have hnonempty : (slashed name).isEmpty = false := by simpa [slashed] using hnamed
  have hclosed := hinside.closed (';' :: rest)
  unfold classAt
  dsimp only
  split
  · next hrest => cases hdrop.symm.trans hrest
  · next hrest =>
    cases hdrop.symm.trans hrest
    rw [if_neg (by rw [htake, hnonempty]; decide), htake]
    split
    · next hnone => cases hclosed.symm.trans hnone
    · next hempty =>
      cases hclosed.symm.trans hempty
      exact absurd rfl hsome
    · next hclose =>
      cases hclosed.symm.trans hclose
      change (∀ args, arguments = _ → _) ∧ _
      split
      · next harguments =>
        refine ⟨fun args h => ?_, fun e h => ?_⟩
        · cases harguments.symm.trans h
        · cases harguments.symm.trans h
          rfl
      · next args harguments =>
        refine ⟨fun args h => ?_, fun e h => ?_⟩
        · cases harguments.symm.trans h
          exact ⟨_, rfl, by rw [dotted_slashed hunmarked], rfl⟩
        · cases harguments.symm.trans h
  · next hrest => cases hdrop.symm.trans hrest
  · next hother _ => exact absurd hdrop (hother _)

/-- A class with arguments is settled by them; they are resolved one level deeper. -/
theorem classAt_settles {levels : Nat} {inner : Nat → (cs : List Char) → Resolution cs}
    (hinner : Follows levels inner) {name : String} (hnamed : name ≠ "")
    (hunmarked : ∀ c ∈ name.toList, c ∉ classMarks) {args : List TypeTree}
    (hargs : ∀ a ∈ args, a.Grammatical) (pos : Nat) (rest : List Char) :
    Settles (classAt inner pos) (slashed name ++ argumentChars args ++ ';' :: rest)
      { TypeTree.ofClass name with args := args } rest (∀ a ∈ args, a.nesting < levels) := by
  cases args with
  | nil =>
    have hplain := classAt_plain inner hnamed hunmarked pos rest
    rw [argumentChars, List.isEmpty_nil, if_pos rfl, List.append_nil]
    exact ⟨fun _ => hplain.ok trivial, fun h => absurd (List.forall_mem_nil _) h⟩
  | cons a more =>
    have hwritten : slashed name ++ argumentChars (a :: more) ++ ';' :: rest =
        slashed name ++ '<' :: (signatureListChars (a :: more) ++ '>' :: ';' :: rest) := by
      simp [argumentChars]
    have hsome : signatureListChars (a :: more) ≠ [] := by
      rw [signatureListChars]
      exact List.append_ne_nil_of_left_ne_nil (signatureChars_ne_nil a) _
    obtain ⟨hok, herror⟩ := classAt_bracketed inner hnamed hunmarked hsome
      (passedOver_signatures hargs) pos rest
    obtain ⟨hall, hdeep⟩ :=
      typesIn_settles hinner hargs (pos + byteLength (slashed name) + 1) []
    rw [hwritten]
    exact ⟨fun hfits => hok _ (hall hfits), fun hnot => herror _ (hdeep hnot)⟩

/-- A type behind a mark is resolved as the type is. -/
theorem Settles.marked {resolve outer : (cs : List Char) → Resolution cs} {c : Char}
    {cs : List Char} {t : TypeTree} {rest : List Char} {fits : Prop}
    (h : Settles resolve cs t rest fits)
    (houter : outer (c :: cs) =
      match resolve cs with
      | .error e => .error e
      | .ok r => .ok ⟨r.tree, r.next, r.rest, Nat.lt_succ_of_lt r.shorter⟩) :
    Settles outer (c :: cs) t rest fits := by
  refine ⟨fun hfits => ?_, fun hnot => ?_⟩
  · obtain ⟨r, hr, htree, hrest⟩ := h.ok hfits
    rw [houter, hr]
    exact ⟨_, rfl, htree, hrest⟩
  · rw [houter, h.tooDeep hnot]

theorem elementAt_settles {levels : Nat} {inner : Nat → (cs : List Char) → Resolution cs}
    (hinner : Follows levels inner) {t : TypeTree} (h : t.Grammatical) (hkind : t.kind ≠ .wildcard)
    (pos : Nat) (rest : List Char) :
    Settles (elementAt inner pos) (t.elementChars ++ rest) t.bare rest
      (∀ a ∈ t.args, a.nesting < levels) := by
  cases h.formed.shape with
  | primitive p hvalue hbare hchars =>
    have hnone : t.args = [] := congrArg TypeTree.args hbare
    rw [hchars, hbare, hnone]
    refine ⟨fun _ => ?_, fun hnot => absurd (List.forall_mem_nil _) hnot⟩
    cases p with
    | void => exact absurd rfl hvalue
    | _ => exact ⟨_, rfl, rfl, rfl⟩
  | classType hnamed hunmarked hbare hchars =>
    have htext : t.elementChars ++ rest =
        'L' :: (slashed t.raw ++ argumentChars t.args ++ ';' :: rest) := by
      simp [hchars]
    rw [htext, hbare]
    exact (classAt_settles hinner hnamed hunmarked h.args (pos + 1) rest).marked rfl
  | «variable» hnamed hunmarked hbare hchars =>
    have hnone : t.args = [] := congrArg TypeTree.args hbare
    have htext : t.elementChars ++ rest = 'T' :: (t.raw.toList ++ ';' :: rest) := by
      simp [hchars]
    rw [htext, hbare, hnone]
    have hsettles : Settles (elementAt inner pos) ('T' :: (t.raw.toList ++ ';' :: rest))
        (.ofVariable t.raw) rest True :=
      (variableAt_settles hnamed hunmarked (pos + 1) rest).marked rfl
    exact ⟨fun _ => hsettles.ok trivial, fun hnot => absurd (List.forall_mem_nil _) hnot⟩
  | wildcard heq =>
    rw [heq] at hkind
    exact absurd rfl hkind

theorem elementChars_head {t : TypeTree} (h : t.Formed) (hkind : t.kind ≠ .wildcard) :
    ∃ c cs, t.elementChars = c :: cs ∧ c ≠ '*' ∧ c ≠ '+' ∧ c ≠ '-' ∧ c ≠ '[' := by
  cases h.shape with
  | primitive p _ _ hchars => exact ⟨p.letter, [], hchars, by cases p <;> decide⟩
  | classType _ _ _ hchars => exact ⟨'L', _, hchars, by decide⟩
  | «variable» _ _ _ hchars => exact ⟨'T', _, hchars, by decide⟩
  | wildcard heq =>
    rw [heq] at hkind
    exact absurd rfl hkind

theorem arrayAt_settles {levels : Nat} {inner : Nat → (cs : List Char) → Resolution cs}
    (hinner : Follows levels inner) {t : TypeTree} (h : t.Grammatical) (hkind : t.kind ≠ .wildcard)
    (pos : Nat) (rest : List Char) :
    Settles (arrayAt inner t.bound pos) (brackets t.dims ++ t.elementChars ++ rest) t rest
      (∀ a ∈ t.args, a.nesting < levels) := by
  obtain ⟨c, cs, hhead, _, _, _, hbracket⟩ := elementChars_head h.formed hkind
  have hall : ∀ d ∈ brackets t.dims, decide (d = '[') = true :=
    fun d hd => decide_eq_true (List.eq_of_mem_replicate hd)
  have htake : ((brackets t.dims ++ t.elementChars ++ rest).takeWhile (· = '[')).length =
      t.dims.toNat := by
    rw [List.append_assoc, List.takeWhile_append_of_pos hall, hhead]
    simp [hbracket, brackets]
  have hdrop : (brackets t.dims ++ t.elementChars ++ rest).dropWhile (· = '[') =
      t.elementChars ++ rest := by
    rw [List.append_assoc, List.dropWhile_append_of_pos hall, hhead]
    simp [hbracket]
  have hroom : ¬ 255 < t.dims.toNat := Nat.not_lt.mpr (Nat.le_of_lt_succ t.dims.toNat_lt)
  have helement := elementAt_settles hinner h hkind (pos + t.dims.toNat) rest
  rw [← hdrop] at helement
  refine ⟨fun hfits => ?_, fun hnot => ?_⟩
  · obtain ⟨r, hr, htree, hrest⟩ := helement.ok hfits
    unfold arrayAt
    simp only [htake, if_neg hroom, hr]
    refine ⟨_, rfl, ?_, hrest⟩
    rw [htree, UInt8.ofNat_toNat]
    exact t.restored
  · unfold arrayAt
    simp only [htake, if_neg hroom, helement.tooDeep hnot]

/-- A type without its bound does not start like one that has it. -/
theorem unbound_head {t : TypeTree} (h : t.Formed) (hkind : t.kind ≠ .wildcard) :
    ∃ c cs, brackets t.dims ++ t.elementChars = c :: cs ∧ c ≠ '*' ∧ c ≠ '+' ∧ c ≠ '-' := by
  cases hdims : brackets t.dims with
  | nil =>
    obtain ⟨c, cs, hhead, hstar, hplus, hminus, _⟩ := elementChars_head h hkind
    exact ⟨c, cs, hhead, hstar, hplus, hminus⟩
  | cons d ds =>
    have hd : d = '[' := List.eq_of_mem_replicate (hdims ▸ List.mem_cons_self : d ∈ brackets t.dims)
    exact ⟨d, ds ++ t.elementChars, rfl, by rw [hd]; decide⟩

/-- Resolving follows the grammar, down to the levels that are left. -/
theorem typeAt_settles (levels : Nat) : Follows levels (typeAt levels) := by
  induction levels with
  | zero => exact fun t _ pos rest => ⟨fun hfits => absurd hfits (Nat.not_lt_zero _), fun _ => rfl⟩
  | succ levels ih =>
    intro t ht pos rest
    -- The wildcard takes a whole level by itself; any other type may have a bound in front.
    by_cases hkind : t.kind = .wildcard
    · have heq := ht.formed.eq_anyType hkind
      subst heq
      refine ⟨fun _ => ⟨_, rfl, rfl, rfl⟩, fun hnot => absurd (Nat.succ_pos levels) hnot⟩
    · have harray (pos : Nat) := arrayAt_settles ih ht hkind pos rest
      rw [nesting_lt_succ_iff, signatureChars_eq]
      cases hbound : t.bound with
      | exact =>
        obtain ⟨c, cs, hhead, hstar, hplus, hminus⟩ := unbound_head ht.formed hkind
        rw [hbound] at harray
        have hplain : typeAt (levels + 1) pos (brackets t.dims ++ t.elementChars ++ rest) =
            arrayAt (typeAt levels) .exact pos (brackets t.dims ++ t.elementChars ++ rest) := by
          rw [hhead, List.cons_append, typeAt]
          · exact nofun
          · exact fun _ heq => hstar (List.cons.inj heq).1
          · exact fun _ heq => hplus (List.cons.inj heq).1
          · exact fun _ heq => hminus (List.cons.inj heq).1
        rw [boundMark, List.nil_append]
        exact ⟨fun hfits => hplain ▸ (harray pos).ok hfits,
          fun hnot => hplain.trans ((harray pos).tooDeep hnot)⟩
      | upper =>
        rw [hbound] at harray
        exact (harray (pos + 1)).marked rfl
      | lower =>
        rw [hbound] at harray
        exact (harray (pos + 1)).marked rfl

end Signature

namespace TypeTree

/-- A type as resolving yields it: grammatical, and no deeper than resolving goes. -/
structure WellFormed (t : TypeTree) : Prop where
  grammatical : t.Grammatical
  nesting : t.nesting ≤ Signature.maxDepth

instance (t : TypeTree) : Decidable t.WellFormed :=
  decidable_of_iff (t.Grammatical ∧ t.nesting ≤ Signature.maxDepth)
    ⟨fun h => ⟨h.1, h.2⟩, fun h => ⟨h.grammatical, h.nesting⟩⟩

/-- A class whose arguments nest as many levels. -/
def tower (name : String) : Nat → TypeTree
  | 0 => ofClass name
  | levels + 1 => { ofClass name with args := [tower name levels] }

theorem tower_grammatical {name : String} (h : (ofClass name).Formed) (levels : Nat) :
    (tower name levels).Grammatical := by
  induction levels with
  | zero => exact .node h nofun
  | succ levels ih => exact .node h (List.forall_mem_singleton.mpr ih)

theorem tower_nesting (name : String) (levels : Nat) : (tower name levels).nesting = levels := by
  induction levels with
  | zero => rfl
  | succ levels ih =>
    rw [tower, nesting, nestingAll, nestingAll, ih, Nat.max_zero]

end TypeTree

namespace Signature

open TypeTree

/-- A text is resolved to the types whose signatures it is the concatenation of, if there are any
and they are well-formed. -/
theorem parseTypes_ok_iff {s : String} {ts : List TypeTree} :
    parseTypes s = .ok ts ↔
      ts ≠ [] ∧ (∀ t ∈ ts, t.WellFormed) ∧ s = String.join (ts.map TypeTree.signature) := by
  rw [join_signature]
  unfold parseTypes
  constructor
  · intro h
    split at h
    · cases h
    · next hsome =>
      obtain ⟨_, rfl, htext, hgrammatical, hnesting⟩ :=
        typesIn_spelled (fun _ _ _ hr => typeAt_spelled hr) h
      have hs : s = String.ofList (signatureListChars ts) := by rw [← htext, String.ofList_toList]
      refine ⟨?_, fun t ht => ⟨hgrammatical t ht, Nat.le_of_lt_succ (hnesting t ht)⟩, hs⟩
      rintro rfl
      rw [hs] at hsome
      exact hsome rfl
  · rintro ⟨hsome, hformed, rfl⟩
    obtain ⟨t, more, rfl⟩ := List.exists_cons_of_ne_nil hsome
    have hne : signatureListChars (t :: more) ≠ [] := by
      rw [signatureListChars]
      exact List.append_ne_nil_of_left_ne_nil (signatureChars_ne_nil t) _
    rw [if_neg (by simpa using hne), String.toList_ofList]
    exact (typesIn_settles (typeAt_settles _) (fun t ht => (hformed t ht).grammatical) 0 []).1
      fun t ht => Nat.lt_succ_of_le (hformed t ht).nesting

theorem parseType_ok_iff {s : String} {t : TypeTree} :
    parseType s = .ok t ↔ parseTypes s = .ok [t] := by
  unfold parseType
  cases parseTypes s with
  | error e => simp
  | ok ts =>
    match ts with
    | [] => simp
    | [u] => simp
    | _ :: _ :: _ => simp

/-- One type that nests too deep is refused for that, and for nothing else. -/
theorem parseTypes_tooDeep {t : TypeTree} (h : t.Grammatical) (hdeep : maxDepth < t.nesting) :
    parseTypes t.signature = .error .tooDeep := by
  have hsingle : signatureListChars [t] = t.signatureChars := by
    rw [signatureListChars, signatureListChars, List.append_nil]
  have hsettles := typesIn_settles (typeAt_settles (maxDepth + 1))
    (List.forall_mem_singleton.mpr h) 0 []
  rw [hsingle, List.forall_mem_singleton] at hsettles
  unfold parseTypes
  rw [TypeTree.signature, if_neg (by simpa using signatureChars_ne_nil t), String.toList_ofList]
  exact hsettles.2 (by omega)

/-- Resolving loses nothing: the signatures of the types that a text is resolved to make up the
text. -/
theorem parse_lossless (s : String) :
    (∀ ts, parseTypes s = .ok ts → String.join (ts.map TypeTree.signature) = s) ∧
    ∀ t, parseType s = .ok t → t.signature = s := by
  have hall {ts : List TypeTree} (h : parseTypes s = .ok ts) :
      String.join (ts.map TypeTree.signature) = s := (parseTypes_ok_iff.mp h).2.2.symm
  refine ⟨fun ts => hall, fun t h => ?_⟩
  have hone := hall (parseType_ok_iff.mp h)
  rwa [join_signature, signatureListChars, signatureListChars, List.append_nil] at hone

/-- A map of bounded arrays and wildcards, then a variable, in a text beyond ASCII. -/
theorem parse_lossless_map :
    let text := "Ljava/util/Map<+[Lcafé/Straße;-TÜ;*>;[[TÜ;"
    (∃ ts, parseTypes text = .ok ts ∧ ts.length = 2 ∧
      String.join (ts.map TypeTree.signature) = text) ∧
    ∃ t, parseType "Ljava/util/List<*>;" = .ok t ∧ t.signature = "Ljava/util/List<*>;" := by
  have htypes : parseTypes "Ljava/util/Map<+[Lcafé/Straße;-TÜ;*>;[[TÜ;" =
      .ok [{ ofClass "java.util.Map" with
          args := [{ ofClass "café.Straße" with dims := 1, bound := .upper },
            { ofVariable "Ü" with bound := .lower }, anyType] },
        { ofVariable "Ü" with dims := 2 }] :=
    parseTypes_ok_iff.mpr ⟨by decide, by decide, by decide⟩
  have htype : parseType "Ljava/util/List<*>;" =
      .ok { ofClass "java.util.List" with args := [anyType] } :=
    parseType_ok_iff.mpr (parseTypes_ok_iff.mpr ⟨by decide, by decide, by decide⟩)
  exact ⟨⟨_, htypes, rfl, (parse_lossless _).1 _ htypes⟩, _, htype, (parse_lossless _).2 _ htype⟩

/-- Resolving accepts exactly its grammar: it finds every nonempty list of well-formed types again
in the concatenation of their signatures, it yields no other types, and a type that is well-formed
but for its depth is refused for its depth. -/
theorem parse_exact :
    (∀ ts : List TypeTree, ts ≠ [] → (∀ t ∈ ts, t.WellFormed) →
      parseTypes (String.join (ts.map TypeTree.signature)) = .ok ts) ∧
    (∀ s ts, parseTypes s = .ok ts → ∀ t ∈ ts, t.WellFormed) ∧
    ∀ t : TypeTree, t.Grammatical → maxDepth < t.nesting →
      parseTypes t.signature = .error .tooDeep ∧ parseType t.signature = .error .tooDeep := by
  refine ⟨fun ts hsome hformed => parseTypes_ok_iff.mpr ⟨hsome, hformed, rfl⟩,
    fun s ts h => (parseTypes_ok_iff.mp h).2.1, fun t h hdeep => ?_⟩
  have htypes := parseTypes_tooDeep h hdeep
  exact ⟨htypes, by rw [parseType, htypes]⟩

/-- Arguments may nest 64 levels and no more. -/
theorem parse_exact_tower :
    let deepest := [tower "A" 64, tower "A" 0]
    parseTypes (String.join (deepest.map TypeTree.signature)) = .ok deepest ∧
      (∀ t ∈ deepest, t.WellFormed) ∧
      parseTypes (tower "A" 65).signature = .error .tooDeep ∧
      parseType (tower "A" 65).signature = .error .tooDeep := by
  intro deepest
  have hgrammatical (levels : Nat) : (tower "A" levels).Grammatical :=
    tower_grammatical (by decide) levels
  have hformed {levels : Nat} (h : levels ≤ 64) : (tower "A" levels).WellFormed :=
    ⟨hgrammatical levels, by rwa [tower_nesting]⟩
  have hall : ∀ t ∈ deepest, t.WellFormed :=
    List.forall_mem_cons.mpr
      ⟨hformed (by decide), List.forall_mem_singleton.mpr (hformed (by decide))⟩
  have hparse := parse_exact.1 deepest (by simp [deepest]) hall
  exact ⟨hparse, parse_exact.2.1 _ _ hparse,
    parse_exact.2.2 (tower "A" 65) (hgrammatical 65) (by rw [tower_nesting]; decide)⟩

end Signature

end EntityForge
