import EntityForge.Class.Listing
import EntityForge.Proofs.Text.Keyed
import EntityForge.Proofs.Type.MethodTypes
import EntityForge.Proofs.Type.Stems

/-!
Class names replaced in descriptors and signatures. Each entry is a pass over the whole text, and
what a pass finds is the end of a name in front of a semicolon. So it reaches the names of type
variables and of classes without arguments, whole or from some letter on, it never reaches the name
of a class with arguments, and a later pass goes over what an earlier one has put there. A class is
listed in a descriptor as it is listed elsewhere exactly if none of this makes a difference to its
name.
-/

namespace EntityForge

namespace Renames

/-! One pass over a text. -/

/-- A text with every occurrence of another one replaced. -/
def replaced (old new cs : List Char) : List Char := replaceFrom old new [] (cs.length + 1) cs

theorem dropPrefix?_eq_some {head cs rest : List Char} :
    dropPrefix? head cs = some rest ↔ cs = head ++ rest := by
  fun_induction dropPrefix? head cs with
  | case1 cs => simp
  | case2 => simp
  | case3 head c cs ih => simpa using ih
  | case4 h head c cs hne => simp [Ne.symm hne]

theorem replaceFrom_done {old new : List Char} (done : List Char) (fuel : Nat) (cs : List Char) :
    replaceFrom old new done fuel cs = done.reverse ++ replaceFrom old new [] fuel cs := by
  induction fuel generalizing done cs with
  | zero => simp [replaceFrom]
  | succ fuel ih =>
    cases cs with
    | nil => simp [replaceFrom]
    | cons c cs =>
      rw [replaceFrom, replaceFrom]
      split
      · rw [ih, ih (new.reverse ++ [])]
        simp
      · rw [ih, ih [c]]
        simp

/-- The fuel does not matter as long as it exceeds the length of the input. -/
theorem replaceFrom_fuel {old new : List Char} (hold : old ≠ []) {fuel fuel' : Nat}
    {cs : List Char} (h : cs.length < fuel) (h' : cs.length < fuel') :
    replaceFrom old new [] fuel cs = replaceFrom old new [] fuel' cs := by
  induction fuel generalizing fuel' cs with
  | zero => exact absurd h (Nat.not_lt_zero _)
  | succ fuel ih =>
    obtain ⟨fuel', rfl⟩ := Nat.exists_eq_succ_of_ne_zero (Nat.ne_zero_of_lt h')
    cases cs with
    | nil => rfl
    | cons c cs =>
      rw [List.length_cons] at h h'
      rw [replaceFrom, replaceFrom]
      split
      · next rest hrest =>
        have hlength := congrArg List.length (dropPrefix?_eq_some.mp hrest)
        have hsome := List.length_pos_iff.mpr hold
        rw [List.length_cons, List.length_append] at hlength
        have hsame := @ih fuel' rest (by omega) (by omega)
        rw [replaceFrom_done, replaceFrom_done _ fuel', hsame]
      · have hsame := @ih fuel' cs (by omega) (by omega)
        rw [replaceFrom_done, replaceFrom_done _ fuel', hsame]

theorem replaced_match {old : List Char} (hold : old ≠ []) (new rest : List Char) :
    replaced old new (old ++ rest) = new ++ replaced old new rest := by
  obtain ⟨c, cs, rfl⟩ := List.exists_cons_of_ne_nil hold
  have hdrop : dropPrefix? (c :: cs) (c :: (cs ++ rest)) = some rest :=
    dropPrefix?_eq_some.mpr rfl
  have hfuel : rest.length < (c :: (cs ++ rest)).length := by
    rw [List.length_cons, List.length_append]
    omega
  rw [replaced, List.cons_append, replaceFrom, hdrop]
  dsimp only
  rw [replaceFrom_done, List.append_nil, List.reverse_reverse, replaced,
    replaceFrom_fuel hold hfuel (Nat.lt_succ_self _)]

theorem replaced_skip {old : List Char} (new : List Char) {c : Char} {cs : List Char}
    (h : ∀ rest, c :: cs ≠ old ++ rest) :
    replaced old new (c :: cs) = c :: replaced old new cs := by
  have hdrop : dropPrefix? old (c :: cs) = none :=
    Option.eq_none_iff_forall_ne_some.mpr fun rest hrest => h rest (dropPrefix?_eq_some.mp hrest)
  rw [replaced, replaceFrom, hdrop]
  dsimp only
  rw [replaceFrom_done, List.length_cons]
  rfl

def opened (name : String) : List Char := 'L' :: TypeTree.slashed name

theorem reference_eq (name : String) : reference name = opened name ++ [';'] := rfl

/-- The characters that end a name. -/
def nameEnds : List Char := [';', '<']

def Unended (cs : List Char) : Prop := ∀ c ∈ cs, c ∉ nameEnds

/-- A name is known by its end, whatever follows. -/
theorem Unended.inj {name name' rest rest' : List Char} {c c' : Char} (h : Unended name)
    (h' : Unended name') (hc : c ∈ nameEnds) (hc' : c' ∈ nameEnds) :
    name ++ c :: rest = name' ++ c' :: rest' ↔ name = name' ∧ c = c' ∧ rest = rest' := by
  refine ⟨fun heq => ?_, fun ⟨hname, hend, hrest⟩ => by rw [hname, hend, hrest]⟩
  -- What follows may hold more ends, so only the names tell where the first one stands.
  induction name generalizing name' with
  | nil =>
    cases name' with
    | nil => exact ⟨rfl, List.cons.inj heq⟩
    | cons d name' =>
      obtain ⟨rfl, _⟩ := List.cons.inj heq
      exact absurd hc (h' _ List.mem_cons_self)
  | cons d name ih =>
    cases name' with
    | nil =>
      obtain ⟨rfl, _⟩ := List.cons.inj heq
      exact absurd hc' (h _ List.mem_cons_self)
    | cons d' name' =>
      obtain ⟨rfl, hmore⟩ := List.cons.inj heq
      obtain ⟨rfl, hends⟩ := ih (List.forall_mem_cons.mp h).2 (List.forall_mem_cons.mp h').2 hmore
      exact ⟨rfl, hends⟩

/-- A name with its end replaced, if that is a given text. -/
def swapEnd (old new : List Char) : List Char → List Char
  | [] => []
  | c :: cs => if c :: cs = old then new else c :: swapEnd old new cs

theorem Unended.swapEnd {old new name : List Char} (hname : Unended name) (hnew : Unended new) :
    Unended (swapEnd old new name) := by
  induction name with
  | nil => exact hname
  | cons c name ih =>
    obtain ⟨hc, hname⟩ := List.forall_mem_cons.mp hname
    unfold Renames.swapEnd
    split
    · exact hnew
    · exact List.forall_mem_cons.mpr ⟨hc, ih hname⟩

/-- Nothing is found at a character that starts no reference. -/
theorem replaced_char (old new : String) {c : Char} (h : c ≠ 'L') (rest : List Char) :
    replaced (reference old) (reference new) (c :: rest) =
      c :: replaced (reference old) (reference new) rest :=
  replaced_skip _ fun _ heq => h (List.cons.inj heq).1

/-- In front of a semicolon the end of a name is replaced. -/
theorem replaced_name {old : String} (hold : Unended (opened old)) (new : String)
    {name : List Char} (hname : Unended name) (rest : List Char) :
    replaced (reference old) (reference new) (name ++ ';' :: rest) =
      swapEnd (opened old) (opened new) name ++
        ';' :: replaced (reference old) (reference new) rest := by
  induction name with
  | nil => exact replaced_char old new (by decide) rest
  | cons c cs ih =>
    unfold swapEnd
    split
    · next heq =>
      have htext : c :: cs ++ ';' :: rest = reference old ++ rest := by simp [heq, reference_eq]
      have hsome : reference old ≠ [] := List.cons_ne_nil _ _
      rw [htext, replaced_match hsome]
      simp [reference_eq]
    · next hne =>
      have hskip : ∀ more, c :: (cs ++ ';' :: rest) ≠ reference old ++ more := by
        intro more heq
        rw [reference_eq, List.append_assoc, ← List.cons_append] at heq
        exact hne ((hname.inj hold (by decide) (by decide)).mp heq).1
      rw [List.cons_append, replaced_skip _ hskip, ih (List.forall_mem_cons.mp hname).2]
      rfl

/-- In front of arguments nothing is found. -/
theorem replaced_applied {old : String} (hold : Unended (opened old)) (new : String)
    {name : List Char} (hname : Unended name) (rest : List Char) :
    replaced (reference old) (reference new) (name ++ '<' :: rest) =
      name ++ '<' :: replaced (reference old) (reference new) rest := by
  induction name with
  | nil => exact replaced_char old new (by decide) rest
  | cons c cs ih =>
    have hskip : ∀ more, c :: (cs ++ '<' :: rest) ≠ reference old ++ more := by
      intro more heq
      rw [reference_eq, List.append_assoc, ← List.cons_append] at heq
      exact absurd ((hname.inj hold (by decide) (by decide)).mp heq).2.1 (by decide)
    rw [List.cons_append, replaced_skip _ hskip, ih (List.forall_mem_cons.mp hname).2]
    rfl

/-! One pass over a signature. -/

open TypeTree

theorem opened_unended {name : String} (h : (ofClass name).Formed) : Unended (opened name) := by
  refine List.forall_mem_cons.mpr ⟨by decide, fun c hc hend => ?_⟩
  have hplain := slashed_unmarked h.2 c hc
  simp only [nameEnds, List.mem_cons, List.not_mem_nil, or_false] at hend
  rcases hend with rfl | rfl <;> cases hplain

/-- The slashes of a class name stand for its dots, so its reference tells the name. -/
theorem opened_inj {name name' : String} (h : (ofClass name).Formed)
    (h' : (ofClass name').Formed) : opened name = opened name' ↔ name = name' := by
  refine ⟨fun heq => ?_, congrArg opened⟩
  have hback {name : String} (h : (ofClass name).Formed) : dotted (slashed name) = name :=
    dotted_slashed h.2
  rw [← hback h, (List.cons.inj heq).2, hback h']

/-- A node that no mark follows has a single letter. -/
theorem stem_of_plain {t : TypeTree} (hclass : t.kind ≠ .classType)
    (hvariable : t.kind ≠ .variable) :
    ∃ c, t.stem = [c] ∧ c ≠ 'L' ∧ c ∉ nameEnds := by
  unfold stem
  cases hkind : t.kind with
  | primitive p => exact ⟨p.letter, rfl, by cases p <;> decide, by cases p <;> decide⟩
  | wildcard => exact ⟨'*', rfl, by decide, by decide⟩
  | classType => exact absurd hkind hclass
  | «variable» => exact absurd hkind hvariable

/-- Stems that end where the signature says so. Where it does not, behind the letter of a primitive
and behind the wildcard, there are no other stems. -/
structure Separate (stems : TypeTree → List Char) : Prop where
  unended : ∀ t, t.Formed → Unended (stems t)
  plain : ∀ t, t.kind ≠ .classType → t.kind ≠ .variable → stems t = t.stem

theorem separate_stem : Separate stem where
  unended t h := by
    cases hkind : t.kind with
    | classType =>
      rw [stem_class hkind]
      exact opened_unended (h.ofClass hkind)
    | «variable» =>
      unfold Formed at h
      unfold stem
      rw [hkind] at h ⊢
      refine List.forall_mem_cons.mpr ⟨by decide, fun c hc hend => h.2.1 c hc ?_⟩
      simp only [nameEnds, List.mem_cons, List.not_mem_nil, or_false] at hend
      rcases hend with rfl | rfl <;> decide
    | primitive p | wildcard =>
      obtain ⟨c, hstem, _, hend⟩ := stem_of_plain (t := t) (by simp [hkind]) (by simp [hkind])
      rw [hstem]
      exact List.forall_mem_singleton.mpr hend
  plain _ _ _ := rfl

/-- The stems behind one pass. -/
def passed (old new : String) (stems : TypeTree → List Char) (t : TypeTree) : List Char :=
  if t.args.isEmpty then swapEnd (opened old) (opened new) (stems t) else stems t

theorem Separate.passed {stems : TypeTree → List Char} (h : Separate stems) (old : String)
    {new : String} (hnew : (ofClass new).Formed) : Separate (passed old new stems) where
  unended t ht := by
    unfold Renames.passed
    split
    · exact (h.unended t ht).swapEnd (opened_unended hnew)
    · exact h.unended t ht
  plain t hclass hvariable := by
    obtain ⟨c, hstem, hletter, _⟩ := stem_of_plain hclass hvariable
    have hother : [c] ≠ opened old := fun heq => hletter (List.cons.inj heq).1
    unfold Renames.passed
    rw [h.plain t hclass hvariable, hstem, swapEnd, if_neg hother, swapEnd, ite_self]

/-- A text around the stems of some types. A pass over the text is a pass over the stems, and the
text tells what they are. -/
structure Spelling (text : (TypeTree → List Char) → List Char) (types : List TypeTree) : Prop where
  pass : ∀ {stems}, Separate stems → ∀ {old new : String}, (ofClass old).Formed →
    (ofClass new).Formed → ∀ rest,
    replaced (reference old) (reference new) (text stems ++ rest) =
      text (passed old new stems) ++ replaced (reference old) (reference new) rest
  inj : ∀ {stems stems'}, Separate stems → Separate stems' → ∀ {rest rest'},
    text stems ++ rest = text stems' ++ rest' ↔
      (∀ t ∈ types, stems t = stems' t) ∧ rest = rest'

namespace Spelling

variable {text more : (TypeTree → List Char) → List Char} {types others : List TypeTree}

theorem const {cs : List Char} (h : 'L' ∉ cs) : Spelling (fun _ => cs) [] where
  pass := by
    intro _ _ old new _ _ rest
    induction cs with
    | nil => rfl
    | cons c cs ih =>
      obtain ⟨hc, hcs⟩ := not_or.mp (mt List.mem_cons.mpr h)
      rw [List.cons_append, replaced_char old new (Ne.symm hc), ih hcs]
      rfl
  inj := by simp

theorem append (h : Spelling text types) (hmore : Spelling more others) :
    Spelling (fun stems => text stems ++ more stems) (types ++ others) where
  pass := by
    intro stems hstems old new hold hnew rest
    rw [List.append_assoc, h.pass hstems hold hnew, hmore.pass hstems hold hnew, List.append_assoc]
  inj := by
    intro stems stems' hstems hstems' rest rest'
    rw [List.append_assoc, List.append_assoc, h.inj hstems hstems', hmore.inj hstems hstems',
      List.forall_mem_append, and_assoc]

theorem flatMap {α : Type} {items : List α} {chars : α → (TypeTree → List Char) → List Char}
    {typesOf : α → List TypeTree} (h : ∀ x ∈ items, Spelling (chars x) (typesOf x)) :
    Spelling (fun stems => items.flatMap fun x => chars x stems) (items.flatMap typesOf) := by
  induction items with
  | nil => exact const List.not_mem_nil
  | cons x items ih =>
    obtain ⟨hx, hitems⟩ := List.forall_mem_cons.mp h
    exact hx.append (ih hitems)

/-- A stem that nothing marks the end of. -/
theorem plain {t : TypeTree} (hclass : t.kind ≠ .classType) (hvariable : t.kind ≠ .variable) :
    Spelling (fun stems => stems t) [t] where
  pass := by
    intro stems hstems old new hold hnew rest
    obtain ⟨c, hstem, hletter, _⟩ := stem_of_plain hclass hvariable
    rw [hstems.plain t hclass hvariable, (hstems.passed old hnew).plain t hclass hvariable, hstem]
    exact replaced_char old new hletter rest
  inj := by
    intro stems stems' hstems hstems' rest rest'
    simp [hstems.plain t hclass hvariable, hstems'.plain t hclass hvariable]

/-- A stem is known by the character that ends it. -/
private theorem stem_inj {t : TypeTree} (h : t.Formed) {c : Char} (hc : c ∈ nameEnds)
    {stems stems' : TypeTree → List Char} (hstems : Separate stems) (hstems' : Separate stems')
    {rest rest' : List Char} :
    stems t ++ [c] ++ rest = stems' t ++ [c] ++ rest' ↔
      (∀ u ∈ [t], stems u = stems' u) ∧ rest = rest' := by
  rw [List.append_assoc, List.append_assoc, List.singleton_append, List.singleton_append,
    (hstems.unended t h).inj (hstems'.unended t h) hc hc, List.forall_mem_singleton]
  simp

theorem name {t : TypeTree} (h : t.Formed) (hargs : t.args = []) :
    Spelling (fun stems => stems t ++ [';']) [t] where
  pass := by
    intro stems hstems old new hold hnew rest
    rw [List.append_assoc, List.singleton_append,
      replaced_name (opened_unended hold) new (hstems.unended t h)]
    simp [passed, hargs]
  inj := fun hstems hstems' => stem_inj h (by decide) hstems hstems'

theorem applied {t : TypeTree} (h : t.Formed) (hargs : t.args ≠ []) :
    Spelling (fun stems => stems t ++ ['<']) [t] where
  pass := by
    intro stems hstems old new hold hnew rest
    rw [List.append_assoc, List.singleton_append,
      replaced_applied (opened_unended hold) new (hstems.unended t h)]
    simp [passed, hargs]
  inj := fun hstems hstems' => stem_inj h (by decide) hstems hstems'

/-- The signature of a type is spelled around the stems of the types in its tree. -/
theorem signature {t : TypeTree} (h : t.Grammatical) :
    Spelling (fun stems => spelledWith stems t) t.nodes := by
  induction h with
  | @node t hformed _ ih =>
    have hargs : Spelling (fun stems => spelledAllWith stems t.args) (nodesAll t.args) := by
      simp only [spelledAllWith_eq, nodesAll_eq]
      exact .flatMap ih
    have hmarks : Spelling (fun _ => boundMark t.bound ++ brackets t.dims) [] := by
      refine .const fun hmem => ?_
      rcases List.mem_append.mp hmem with hbound | hbracket
      · cases hbound' : t.bound <;> simp [hbound', boundMark] at hbound
      · exact absurd (List.eq_of_mem_replicate hbracket) (by decide)
    -- Only the stem of a class has to be told apart by whether arguments follow.
    have hnode := hformed
    obtain ⟨raw, args, dims, kind, bound⟩ := t
    cases kind with
    | primitive p =>
      obtain ⟨_, _, rfl⟩ := hformed
      have hletter := plain (t := ⟨raw, [], dims, .primitive p, bound⟩) (by simp) (by simp)
      simpa [spelledWith, TypeTree.nodes, nodesAll] using hmarks.append hletter
    | wildcard =>
      obtain ⟨_, rfl, _⟩ := hformed
      have hletter := plain (t := ⟨raw, [], dims, .wildcard, bound⟩) (by simp) (by simp)
      simpa [spelledWith, TypeTree.nodes, nodesAll] using hmarks.append hletter
    | «variable» =>
      obtain ⟨_, _, rfl⟩ := hformed
      simpa [spelledWith, TypeTree.nodes, nodesAll] using hmarks.append (name hnode rfl)
    | classType =>
      cases args with
      | nil => simpa [spelledWith, TypeTree.nodes, nodesAll] using hmarks.append (name hnode rfl)
      | cons a more =>
        have hclose : Spelling (fun _ => ['>', ';']) [] := const (by decide)
        have happlied := (applied hnode (List.cons_ne_nil a more)).append (hargs.append hclose)
        simpa [spelledWith, TypeTree.nodes] using hmarks.append happlied

theorem signatures {ts : List TypeTree} (h : ∀ t ∈ ts, t.Grammatical) :
    Spelling (fun stems => spelledAllWith stems ts) (ts.flatMap TypeTree.nodes) := by
  simp only [spelledAllWith_eq]
  exact .flatMap fun t ht => signature (h t ht)

theorem method {m : MethodType} (hparams : ∀ t ∈ m.params, t.Grammatical)
    (hresult : ∀ t ∈ m.result, t.Grammatical) :
    Spelling (fun stems => m.spelledWith stems)
      ((m.params ++ m.result.toList).flatMap TypeTree.nodes) := by
  obtain ⟨params, result⟩ := m
  have hopen : Spelling (fun _ => ['(']) [] := const (by decide)
  have hclose : Spelling (fun _ => [')']) [] := const (by decide)
  have hinside := (hopen.append (signatures hparams)).append hclose
  cases result with
  | none =>
    have hvoid : Spelling (fun _ => ['V']) [] := const (by decide)
    simpa [MethodType.spelledWith] using hinside.append hvoid
  | some t => simpa [MethodType.spelledWith] using hinside.append (signature (hresult t rfl))

end Spelling

/-! All passes. -/

/-- A name behind all passes, in order of the replaced names. -/
def passes (renames : Renames) (name : List Char) : List Char :=
  renames.foldl (fun name (old, new) => swapEnd (opened old) (opened new) name) name

def listed (renames : Renames) (stems : TypeTree → List Char) (t : TypeTree) : List Char :=
  if t.args.isEmpty then renames.passes (stems t) else stems t

/-- A class is listed inside a signature under the name under which it is listed elsewhere, and a
type variable under its own. -/
def Uniform (renames : Renames) (t : TypeTree) : Prop :=
  match t.kind with
  | .primitive _ | .wildcard => True
  | .variable => renames.passes ('T' :: t.raw.toList) = 'T' :: t.raw.toList
  | .classType =>
    if t.args.isEmpty then renames.passes (opened t.raw) = opened (renames.className t.raw)
    else renames.className t.raw = t.raw

instance (renames : Renames) : (t : TypeTree) → Decidable (renames.Uniform t)
  | ⟨_, _, _, .primitive _, _⟩ | ⟨_, _, _, .wildcard, _⟩ => .isTrue trivial
  | ⟨raw, _, _, .variable, _⟩ =>
    inferInstanceAs (Decidable (renames.passes ('T' :: raw.toList) = 'T' :: raw.toList))
  | ⟨raw, args, _, .classType, _⟩ =>
    inferInstanceAs (Decidable
      (if args.isEmpty then renames.passes (opened raw) = opened (renames.className raw)
        else renames.className raw = raw))

/-- Class names are replaced by class names. -/
def OfClasses (renames : Renames) : Prop :=
  ∀ entry ∈ renames, (ofClass entry.1).Formed ∧ (ofClass entry.2).Formed

instance (renames : Renames) : Decidable renames.OfClasses :=
  inferInstanceAs
    (Decidable (∀ entry ∈ renames, (ofClass entry.1).Formed ∧ (ofClass entry.2).Formed))

variable {renames : Renames}

theorem OfClasses.className (h : renames.OfClasses) {name : String}
    (hname : (ofClass name).Formed) : (ofClass (renames.className name)).Formed := by
  unfold Renames.className
  cases hfound : renames.get? name with
  | none => exact hname
  | some new => exact (h _ (Keyed.mem_of_get? hfound)).2

theorem listed_cons (old new : String) (renames : Renames) (stems : TypeTree → List Char) :
    listed ((old, new) :: renames) stems = listed renames (passed old new stems) := by
  funext t
  unfold listed passed
  split <;> rfl

theorem listed_nil (stems : TypeTree → List Char) : listed [] stems = stems := by
  funext t
  exact ite_self _

theorem OfClasses.listed (h : renames.OfClasses) {stems : TypeTree → List Char}
    (hstems : Separate stems) : Separate (renames.listed stems) := by
  induction renames generalizing stems with
  | nil => rwa [listed_nil]
  | cons entry renames ih =>
    obtain ⟨hentry, hrenames⟩ := List.forall_mem_cons.mp h
    rw [listed_cons]
    exact ih hrenames (hstems.passed entry.1 hentry.2)

/-- The names under which classes are listed elsewhere are class names. -/
theorem OfClasses.renamed (h : renames.OfClasses) :
    Separate fun t => (t.renamed renames.className).stem where
  unended t ht := by
    by_cases hclass : t.kind = .classType
    · rw [stem_renamed_class hclass]
      exact opened_unended (h.className (ht.ofClass hclass))
    · rw [stem_renamed_other hclass]
      exact separate_stem.unended t ht
  plain t hclass _ := stem_renamed_other hclass

theorem Spelling.descriptor {text : (TypeTree → List Char) → List Char} {types : List TypeTree}
    (h : Spelling text types) (hrenames : renames.OfClasses) {stems : TypeTree → List Char}
    (hstems : Separate stems) (rest : List Char) :
    renames.descriptor (String.ofList (text stems ++ rest)) =
      String.ofList (text (renames.listed stems)) ++ renames.descriptor (String.ofList rest) := by
  have hpass (text : List Char) : renames.descriptor (String.ofList text) = String.ofList
      (renames.foldl (fun cs (old, new) => replaced (reference old) (reference new) cs) text) := by
    rw [Renames.descriptor, String.toList_ofList]
    rfl
  rw [hpass, hpass, ← String.ofList_append]
  congr 1
  clear hpass
  -- Each pass leaves other stems and another rest to the next one, so both vary in the induction.
  induction renames generalizing stems rest with
  | nil => rw [listed_nil]; rfl
  | cons entry renames ih =>
    obtain ⟨old, new⟩ := entry
    obtain ⟨hentry, hrenames⟩ := List.forall_mem_cons.mp hrenames
    have hold : (ofClass old).Formed := hentry.1
    have hnew : (ofClass new).Formed := hentry.2
    rw [List.foldl_cons, List.foldl_cons]
    dsimp only
    rw [h.pass hstems hold hnew, listed_cons]
    exact ih hrenames (hstems.passed old hnew) _

/-- What a type is listed under behind all passes is what it is listed under elsewhere exactly if it
is listed uniformly. -/
theorem OfClasses.uniform_iff (h : renames.OfClasses) {t : TypeTree} (ht : t.Formed) :
    renames.listed stem t = (t.renamed renames.className).stem ↔ renames.Uniform t := by
  have hplain := (h.listed separate_stem).plain t
  unfold Uniform
  cases hkind : t.kind with
  | primitive p => simp [hplain (by simp [hkind]) (by simp [hkind]), stem_renamed_other, hkind]
  | wildcard => simp [hplain (by simp [hkind]) (by simp [hkind]), stem_renamed_other, hkind]
  | «variable» =>
    have hargs : t.args = [] := by
      unfold Formed at ht
      rw [hkind] at ht
      exact ht.2.2
    have hstem : t.stem = 'T' :: t.raw.toList := by
      unfold stem
      rw [hkind]
    simp [Renames.listed, hargs, stem_renamed_other, hkind, hstem]
  | classType =>
    have hname := ht.ofClass hkind
    rw [stem_renamed_class hkind]
    unfold Renames.listed
    rw [stem_class hkind]
    dsimp only
    split
    · rfl
    · exact (opened_inj hname (h.className hname)).trans eq_comm

/-- A text around the stems of some types is listed with the stems behind all passes. It is listed
as if its classes were renamed exactly if the types are listed uniformly. -/
theorem Spelling.listing {text : (TypeTree → List Char) → List Char} {ts : List TypeTree}
    (h : Spelling text (ts.flatMap nodes)) (hrenames : renames.OfClasses)
    (hts : ∀ t ∈ ts, t.Grammatical) (rest : String) :
    renames.descriptor (String.ofList (text stem) ++ rest) =
        String.ofList (text (renames.listed stem)) ++ renames.descriptor rest ∧
      (renames.descriptor (String.ofList (text stem) ++ rest) =
          String.ofList (text fun t => (t.renamed renames.className).stem) ++
            renames.descriptor rest ↔
        ∀ t ∈ ts, ∀ u ∈ t.nodes, renames.Uniform u) := by
  have hlisted := h.descriptor hrenames separate_stem rest.toList
  rw [String.ofList_append, String.ofList_toList] at hlisted
  refine ⟨hlisted, ?_⟩
  rw [hlisted, ← String.toList_inj, String.toList_append, String.toList_append,
    String.toList_ofList, String.toList_ofList,
    h.inj (hrenames.listed separate_stem) hrenames.renamed]
  simp only [List.mem_flatMap, and_true]
  constructor
  · intro hall t ht u hu
    exact (hrenames.uniform_iff ((hts t ht).nodes u hu)).mp (hall u ⟨t, ht, hu⟩)
  · rintro hall u ⟨t, ht, hu⟩
    exact (hrenames.uniform_iff ((hts t ht).nodes u hu)).mpr (hall t ht u hu)

theorem descriptor_empty (renames : Renames) : renames.descriptor "" = "" := by
  unfold Renames.descriptor
  induction renames with
  | nil => rfl
  | cons entry renames ih => exact ih

/-- Class names in a descriptor or signature go through the replacements one after the other. A name
in front of arguments stays as it is; any other name, one of a type variable too, loses its end to
each replacement in turn. So a signature is listed as that of its types with every class renamed,
as a class is listed elsewhere, if and only if every type in it is listed uniformly. A throws clause
behind the signature of a method is listed by itself. -/
theorem descriptor_uniform_iff (h : renames.OfClasses) (s : String) :
    (∀ ts, Signature.parseTypes s = .ok ts →
      renames.descriptor s = String.ofList (spelledAllWith (renames.listed stem) ts) ∧
      (renames.descriptor s =
          String.join (ts.map fun t => (t.renamed renames.className).signature) ↔
        ∀ t ∈ ts, ∀ u ∈ t.nodes, renames.Uniform u)) ∧
    ∀ m, MethodType.parse s = .ok m → ∃ throws, s = m.signature ++ throws ∧
      (∀ c ∈ throws.toList.head?, c = '^') ∧
      renames.descriptor s =
        String.ofList (m.spelledWith (renames.listed stem)) ++ renames.descriptor throws ∧
      (renames.descriptor s =
          (m.renamed renames.className).signature ++ renames.descriptor throws ↔
        ∀ t ∈ m.params ++ m.result.toList, ∀ u ∈ t.nodes, renames.Uniform u) := by
  constructor
  · intro ts hparse
    obtain ⟨_, hwellFormed, rfl⟩ := Signature.parseTypes_ok_iff.mp hparse
    have hts : ∀ t ∈ ts, t.Grammatical := fun t ht => (hwellFormed t ht).grammatical
    have hrenamed : (ts.map fun t => (t.renamed renames.className).signature) =
        (renamedAll renames.className ts).map signature := by
      rw [renamedAll_eq, List.map_map]
      rfl
    have hlisting := (Spelling.signatures hts).listing h hts ""
    rw [descriptor_empty, String.append_empty, String.append_empty, String.append_empty,
      spelledAllWith_stem, spelledAllWith_renamed] at hlisting
    rw [hrenamed, join_signature, join_signature]
    exact hlisting
  · intro m hparse
    obtain ⟨throws, htext, hparams, hresult, hthrows⟩ := MethodType.parse_ok hparse
    have hts : ∀ t ∈ m.params ++ m.result.toList, t.Grammatical := by
      intro t ht
      rcases List.mem_append.mp ht with hparam | hmem
      · exact (hparams t hparam).grammatical
      · exact (hresult t (Option.mem_toList.mp hmem)).grammatical
    have hs : s = m.signature ++ String.ofList throws := by
      rw [← String.ofList_toList (s := s), htext, String.ofList_append, MethodType.signature]
    have hspelling := Spelling.method (fun t ht => (hparams t ht).grammatical)
      fun t ht => (hresult t ht).grammatical
    have hlisting := hspelling.listing h hts (String.ofList throws)
    rw [MethodType.spelledWith_stem, MethodType.spelledWith_renamed] at hlisting
    rw [hs]
    exact ⟨String.ofList throws, rfl, by rwa [String.toList_ofList], hlisting⟩

/-- A class as an argument, beside a variable, and another one as the items of a result. -/
theorem descriptor_uniform_iff_classes :
    let renames : Renames := [("app.A", "app.B"), ("app.C", "app.D")]
    renames.OfClasses ∧
      (∃ ts, Signature.parseTypes "Lapp/List<Lapp/A;>;TA;" = .ok ts ∧
        renames.descriptor "Lapp/List<Lapp/A;>;TA;" =
          String.join (ts.map fun t => (t.renamed renames.className).signature)) ∧
      ∃ m throws, MethodType.parse "()[Lapp/C;" = .ok m ∧
        renames.descriptor "()[Lapp/C;" =
          (m.renamed renames.className).signature ++ renames.descriptor throws := by
  intro renames
  have hclasses : renames.OfClasses := by decide
  have htypes : Signature.parseTypes "Lapp/List<Lapp/A;>;TA;" =
      .ok [{ ofClass "app.List" with args := [ofClass "app.A"] }, ofVariable "A"] :=
    Signature.parseTypes_ok_iff.mpr ⟨by decide, by decide, by decide⟩
  have htype : Signature.parseType "[Lapp/C;" = .ok { ofClass "app.C" with dims := 1 } :=
    Signature.parseType_ok_iff.mpr
      (Signature.parseTypes_ok_iff.mpr ⟨by decide, by decide, by decide⟩)
  have hmethod : MethodType.parse "()[Lapp/C;" =
      .ok ⟨[], some { ofClass "app.C" with dims := 1 }⟩ :=
    MethodType.parse_returning htype
  obtain ⟨throws, _, _, _, hlisted⟩ :=
    (descriptor_uniform_iff hclasses "()[Lapp/C;").2 _ hmethod
  exact ⟨hclasses, ⟨_, htypes,
      ((descriptor_uniform_iff hclasses "Lapp/List<Lapp/A;>;TA;").1 _ htypes).2.mpr (by decide)⟩,
    _, throws, hmethod, hlisted.mpr (by decide)⟩

/-- Where one class takes the name of another that is replaced itself, a descriptor goes on to the
next name; a class with arguments keeps its name, and a type variable may lose its own. -/
theorem descriptor_varies :
    let renames : Renames := [("app.A", "app.B"), ("app.B", "app.C")]
    renames.OfClasses ∧ renames.className "app.A" = "app.B" ∧
      Signature.parseType "Lapp/A;" = .ok (ofClass "app.A") ∧
      renames.descriptor "Lapp/A;" = "Lapp/C;" ∧
      ((ofClass "app.A").renamed renames.className).signature = "Lapp/B;" ∧
      renames.descriptor "Lapp/A<*>;" = "Lapp/A<*>;" ∧
      descriptor [("A", "B")] "TLA;" = "TLB;" := by
  intro renames
  have htype : Signature.parseType "Lapp/A;" = .ok (ofClass "app.A") :=
    Signature.parseType_ok_iff.mpr
      (Signature.parseTypes_ok_iff.mpr ⟨by decide, by decide, by decide⟩)
  exact ⟨by decide, by decide, htype, by decide, by decide, by decide, by decide⟩

end Renames

end EntityForge
