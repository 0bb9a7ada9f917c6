import EntityForge.Annotation.Registry
import EntityForge.Proofs.Checked
import EntityForge.Proofs.Text.Keyed
import Mathlib.Data.List.Nodup

/-!
Completed annotations. Elements that are given are widened to their declared kinds, and widening
again changes nothing; elements that are left out get their defaults just as they were declared. So
a completed annotation has values of the declared kinds, and is completed to itself, exactly if the
defaults that were filled in are values of their kinds.
-/

namespace EntityForge

/-- A widened value is not widened any further. -/
theorem ElementKind.coerce?_coerced {kind : ElementKind} {v w : ElementValue}
    (h : kind.coerce? v = some w) : kind.coerce? w = some w := by
  unfold coerce? at h
  split at h
  all_goals try cases h
  all_goals try rfl
  -- An array is left, which is kept if all its items are texts.
  split at h
  · next htexts =>
    cases h
    exact if_pos htexts
  · cases h

/-! What a kind makes of values. -/

namespace AnnotationKind

/-- The value that an element gets when one is given. -/
def coerced? (k : AnnotationKind) (element : String) (given : ElementValue) :
    Option ElementValue :=
  (k.element? element).bind fun spec => spec.kind.coerce? given

def default? (k : AnnotationKind) (element : String) : Option ElementValue :=
  (k.element? element).bind (·.default)

/-- The kind accepts the values of some elements and leaves every one of them as it is. -/
def Keeps (k : AnnotationKind) (values : Keyed ElementValue) : Prop :=
  ∀ element v, values.get? element = some v → k.coerced? element v = some v

/-- The defaults of the elements that some values leave out are accepted by the kinds of their
elements and left as they are. -/
def KeepsDefaults (k : AnnotationKind) (values : Keyed ElementValue) : Prop :=
  ∀ spec ∈ k.elements, ∀ default, spec.default = some default → values.get? spec.name = none →
    spec.kind.coerce? default = some default

/-- Each of some given values becomes one of its declared kind. -/
def Coerces (k : AnnotationKind) : Keyed ElementValue → Keyed ElementValue → Prop :=
  List.Forall₂ fun given entry => entry.1 = given.1 ∧ k.coerced? given.1 given.2 = some entry.2

variable {k : AnnotationKind} {given values : Keyed ElementValue} {element : String}

theorem coerced?_coerced {v w : ElementValue} (h : k.coerced? element v = some w) :
    k.coerced? element w = some w := by
  obtain ⟨spec, hspec, hcoerced⟩ := Option.bind_eq_some_iff.mp h
  rw [coerced?, hspec]
  exact ElementKind.coerce?_coerced hcoerced

/-- An element is found under its name if no other one has that name. -/
theorem element?_of_mem (hnames : (k.elements.map (·.name)).Nodup) {spec : ElementSpec}
    (h : spec ∈ k.elements) : k.element? spec.name = some spec := by
  obtain ⟨found, hfound⟩ : ∃ found, k.element? spec.name = some found :=
    Option.isSome_iff_exists.mp (List.find?_isSome.mpr ⟨spec, h, decide_eq_true rfl⟩)
  have hname : found.name = spec.name := by simpa using List.find?_some hfound
  rw [hfound, List.inj_on_of_nodup_map hnames (List.mem_of_find?_eq_some hfound) h hname]

theorem default?_of_mem (hnames : (k.elements.map (·.name)).Nodup) {spec : ElementSpec}
    (h : spec ∈ k.elements) : k.default? spec.name = spec.default := by
  rw [default?, element?_of_mem hnames h, Option.bind_some]

theorem mem_of_element? {spec : ElementSpec} (h : k.element? element = some spec) :
    spec ∈ k.elements ∧ spec.name = element :=
  ⟨List.mem_of_find?_eq_some h, by simpa using List.find?_some h⟩

theorem Coerces.keys (h : k.Coerces given values) : values.keys = given.keys := by
  unfold Keyed.keys
  rw [← List.forall₂_eq_eq_eq, List.forall₂_map_left_iff, List.forall₂_map_right_iff]
  exact h.flip.imp fun _ _ hentry => hentry.1

theorem Coerces.get? (h : k.Coerces given values) (element : String) :
    values.get? element = (given.get? element).bind (k.coerced? element) := by
  induction h with
  | nil => rfl
  | @cons given coerced _ _ hentry _ ih =>
    obtain ⟨key, v⟩ := coerced
    obtain ⟨rfl, hcoerced⟩ : key = given.1 ∧ _ := hentry
    by_cases heq : element = given.1
    · subst heq
      rw [Keyed.get?_cons_self, Keyed.get?_cons_self, Option.bind_some, hcoerced]
    · rw [Keyed.get?_cons_of_ne heq, Keyed.get?_cons_of_ne heq, ih]

theorem Keeps.coerces (h : k.Keeps values) (hordered : values.Ordered) : k.Coerces values values :=
  List.forall₂_same.mpr fun _ hentry => ⟨rfl, h _ _ (hordered.get?_of_mem hentry)⟩

end AnnotationKind

/-! Drafts. -/

namespace AnnotationDraft

variable {k : AnnotationKind} {d d' : AnnotationDraft} {element : String}

theorem setValue_eq_ok {v : ElementValue} :
    d.setValue element v = .ok d' ↔
      ∃ w, d.kind.coerced? element v = some w ∧
        d' = { d with values := d.values.insert element w } := by
  unfold setValue AnnotationKind.coerced?
  cases hspec : d.kind.element? element with
  | none => simp
  | some spec =>
    cases hcoerced : spec.kind.coerce? v with
    | none => simp [hcoerced]
    | some w => simp [hcoerced, eq_comm]

/-- Elements are set in order of their names, behind those that are set already. -/
private theorem setValues_eq_ok {done entries : Keyed ElementValue}
    (hordered : Keyed.Ordered (done ++ entries)) :
    entries.foldlM (fun (d : AnnotationDraft) (element, value) => d.setValue element value)
        ⟨k, done⟩ = .ok d' ↔
      ∃ values, k.Coerces entries values ∧ d' = ⟨k, done ++ values⟩ := by
  induction entries generalizing done with
  | nil =>
    constructor
    · intro h
      cases h
      exact ⟨[], .nil, by rw [List.append_nil]⟩
    · rintro ⟨values, hvalues, rfl⟩
      cases hvalues
      rw [List.append_nil]
      rfl
  | cons entry entries ih =>
    obtain ⟨element, v⟩ := entry
    have hlast : ∀ before ∈ done, before.1 < element := by
      intro before hbefore
      exact (List.pairwise_append.mp hordered).2.2 before hbefore _ List.mem_cons_self
    have hnext (w : ElementValue) : Keyed.Ordered (done ++ [(element, w)] ++ entries) :=
      hordered.of_keys (by simp [Keyed.keys])
    rw [List.foldlM_cons, Checked.bind_eq_ok]
    dsimp only
    constructor
    · rintro ⟨next, hset, hrest⟩
      obtain ⟨w, hcoerced, rfl⟩ := setValue_eq_ok.mp hset
      dsimp only at hrest
      rw [Keyed.insert_last hlast, ih (hnext w)] at hrest
      obtain ⟨values, hvalues, rfl⟩ := hrest
      exact ⟨(element, w) :: values, .cons ⟨rfl, hcoerced⟩ hvalues, by simp⟩
    · rintro ⟨values, hvalues, rfl⟩
      cases hvalues with
      | @cons _ entry _ values hentry hvalues =>
        obtain ⟨key, w⟩ := entry
        obtain ⟨rfl, hcoerced⟩ : key = element ∧ _ := hentry
        refine ⟨_, setValue_eq_ok.mpr ⟨w, hcoerced, rfl⟩, ?_⟩
        dsimp only
        rw [Keyed.insert_last hlast, ih (hnext w)]
        exact ⟨values, hvalues, by simp⟩

/-- Fills in the default of an element that is not set. -/
def fill (values : Keyed ElementValue) (spec : ElementSpec) : Keyed ElementValue :=
  match spec.default with
  | some default =>
    if values.contains spec.name then values else values.insert spec.name default
  | none => values

theorem build_eq (k : AnnotationKind) (values : Keyed ElementValue) :
    build ⟨k, values⟩ = ⟨k.typeName, k.elements.foldl fill values⟩ := rfl

theorem fill_ordered {values : Keyed ElementValue} (h : values.Ordered) (spec : ElementSpec) :
    (fill values spec).Ordered := by
  unfold fill
  split
  · split
    · exact h
    · exact h.insert _ _
  · exact h

theorem fill_get? (values : Keyed ElementValue) (spec : ElementSpec) (element : String) :
    (fill values spec).get? element =
      (values.get? element).or (if spec.name = element then spec.default else none) := by
  unfold fill
  split
  · next default hdefault =>
    by_cases hname : spec.name = element
    · subst hname
      unfold Keyed.contains
      cases hget : values.get? spec.name with
      | none => simp [hdefault, Keyed.get?_insert_self]
      | some v => simp [hget]
    · have hkept : (if values.contains spec.name then values
          else values.insert spec.name default).get? element = values.get? element := by
        split
        · rfl
        · exact Keyed.get?_insert_of_ne (Ne.symm hname) _ _
      rw [hkept, if_neg hname, Option.or_none]
  · next hdefault => rw [hdefault, ite_self, Option.or_none]

private theorem fills_get? {specs : List ElementSpec} (hnames : (specs.map (·.name)).Nodup)
    (values : Keyed ElementValue) (element : String) :
    (specs.foldl fill values).get? element =
      (values.get? element).or ((specs.find? (·.name = element)).bind (·.default)) := by
  induction specs generalizing values with
  | nil => exact (Option.or_none ..).symm
  | cons spec specs ih =>
    obtain ⟨hnew, hnames⟩ := List.nodup_cons.mp hnames
    rw [List.foldl_cons, ih hnames, fill_get?, Option.or_assoc, List.find?_cons]
    congr 1
    by_cases hname : spec.name = element
    · -- No other element has this name, so there is no second default.
      have hnone : specs.find? (·.name = element) = none := by
        refine List.find?_eq_none.mpr fun other hother heq => hnew ?_
        exact List.mem_map.mpr ⟨other, hother, (of_decide_eq_true heq).trans hname.symm⟩
      simp [hname, hnone]
    · simp [hname]

/-- What an element of a finished annotation is: the value that was set, or else its default. -/
theorem build_get? (hnames : (k.elements.map (·.name)).Nodup) (values : Keyed ElementValue)
    (element : String) :
    (build ⟨k, values⟩).values.get? element = (values.get? element).or (k.default? element) :=
  fills_get? hnames values element

theorem build_ordered {values : Keyed ElementValue} (h : values.Ordered) :
    (build ⟨k, values⟩).values.Ordered := by
  rw [build_eq]
  dsimp only
  induction k.elements generalizing values with
  | nil => exact h
  | cons spec specs ih => exact ih (fill_ordered h spec)

/-- What an element of a finished annotation is: the value that was given, widened, or else its
default. -/
theorem build_given (hnames : (k.elements.map (·.name)).Nodup) {given values : Keyed ElementValue}
    (h : k.Coerces given values) (element : String) :
    (build ⟨k, values⟩).values.get? element =
      ((given.get? element).bind (k.coerced? element)).or (k.default? element) := by
  rw [build_get? hnames, h.get?]

/-- Widened values are kept, so it is the defaults that decide whether all values are. -/
theorem keeps_build_iff (hnames : (k.elements.map (·.name)).Nodup)
    {given values : Keyed ElementValue} (h : k.Coerces given values) :
    k.Keeps (build ⟨k, values⟩).values ↔ k.KeepsDefaults given := by
  have hget := build_given hnames h
  constructor
  · intro hkeeps spec hspec default hdefault hnone
    have hfilled := hget spec.name
    rw [hnone, AnnotationKind.default?_of_mem hnames hspec, hdefault] at hfilled
    have hkept := hkeeps _ _ hfilled
    rwa [AnnotationKind.coerced?, AnnotationKind.element?_of_mem hnames hspec] at hkept
  · intro hdefaults element v hv
    rw [hget] at hv
    cases hgiven : given.get? element with
    | some before =>
      obtain ⟨⟨_, w⟩, _, rfl, hcoerced⟩ :=
        Checked.forall₂_mem_left h (Keyed.mem_of_get? hgiven)
      rw [hgiven, Option.bind_some, hcoerced, Option.some_or] at hv
      cases hv
      exact AnnotationKind.coerced?_coerced hcoerced
    | none =>
      rw [hgiven, Option.bind_none, Option.none_or] at hv
      obtain ⟨spec, hspec, hfilled⟩ := Option.bind_eq_some_iff.mp hv
      obtain ⟨hmem, rfl⟩ := AnnotationKind.mem_of_element? hspec
      rw [AnnotationKind.coerced?, hspec]
      exact hdefaults spec hmem v hfilled hgiven

end AnnotationDraft

/-! Registries. -/

namespace AnnotationRegistry

inductive Made : AnnotationRegistry → Prop
  | empty : Made empty
  | register {r : AnnotationRegistry} (h : Made r) (k : AnnotationKind) : Made (r.register k)

/-- No registered kind declares two elements of one name. -/
def Distinct (r : AnnotationRegistry) : Prop :=
  ∀ typeName k, r.get? typeName = some k → (k.elements.map (·.name)).Nodup

variable {r : AnnotationRegistry} {a c : Annotation}

theorem Made.typeName (h : r.Made) {typeName : String} {k : AnnotationKind}
    (hget : r.get? typeName = some k) : k.typeName = typeName := by
  induction h with
  | empty => cases hget
  | register h k' ih =>
    unfold get? AnnotationRegistry.register at hget
    rw [Keyed.get?_insert] at hget
    split at hget
    · next heq =>
      cases hget
      exact heq.symm
    · exact ih hget

/-- An annotation is completed if its kind is registered and accepts the given values. -/
theorem complete_eq_ok (ha : a.values.Ordered) :
    r.complete a = .ok c ↔ ∃ k values, r.get? a.typeName = some k ∧
      k.Coerces a.values values ∧ c = AnnotationDraft.build ⟨k, values⟩ := by
  have hordered : Keyed.Ordered ([] ++ a.values) := ha
  unfold complete draft
  cases hget : r.get? a.typeName with
  | none => simp [bind, Except.bind]
  | some k =>
    rw [Checked.bind_eq_ok]
    constructor
    · rintro ⟨d, hdraft, h⟩
      cases hdraft
      obtain ⟨d', hset, h⟩ := Checked.bind_eq_ok.mp h
      cases h
      obtain ⟨values, hvalues, rfl⟩ := (AnnotationDraft.setValues_eq_ok hordered).mp hset
      exact ⟨k, values, rfl, hvalues, rfl⟩
    · rintro ⟨k', values, hk, hvalues, rfl⟩
      cases hk
      refine ⟨_, rfl, Checked.bind_eq_ok.mpr ⟨_, ?_, rfl⟩⟩
      exact (AnnotationDraft.setValues_eq_ok hordered).mpr ⟨values, hvalues, rfl⟩

/-- A completed annotation is completed to itself exactly if its kind keeps its values. -/
private theorem complete_again {k : AnnotationKind} {values : Keyed ElementValue}
    (hk : r.get? k.typeName = some k) (hnames : (k.elements.map (·.name)).Nodup)
    (hvalues : values.Ordered) (hc : c = AnnotationDraft.build ⟨k, values⟩) :
    r.complete c = .ok c ↔ k.Keeps c.values := by
  have hordered : c.values.Ordered := hc ▸ AnnotationDraft.build_ordered hvalues
  have htype : r.get? c.typeName = some k := by rw [hc]; exact hk
  rw [complete_eq_ok hordered]
  constructor
  · rintro ⟨k', again, hk', hagain, hbuilt⟩ element v hv
    cases htype.symm.trans hk'
    have hget := AnnotationDraft.build_get? hnames again element
    obtain ⟨⟨_, w⟩, _, rfl, hcoerced⟩ :=
      Checked.forall₂_mem_left hagain (Keyed.mem_of_get? hv)
    rw [← hbuilt, hagain.get?, hv, Option.bind_some, hcoerced, Option.some_or] at hget
    cases hget
    exact hcoerced
  · intro hkeeps
    refine ⟨k, c.values, htype, hkeeps.coerces hordered, ?_⟩
    have hsame : (AnnotationDraft.build ⟨k, c.values⟩).values = c.values := by
      refine (AnnotationDraft.build_ordered hordered).ext hordered fun element => ?_
      rw [AnnotationDraft.build_get? hnames, hc, AnnotationDraft.build_get? hnames,
        Option.or_assoc, Option.or_self]
    have htypeName : c.typeName = k.typeName := by rw [hc]; rfl
    obtain ⟨typeName, elements⟩ := c
    cases htypeName
    exact congrArg _ hsame.symm

/-- Completing an annotation. Every element that is given gets its value, widened to its declared
kind, and every other one its default, so all elements with a default are there. The kind accepts
all values of the outcome and leaves them unchanged, and the outcome is completed to itself, exactly
if this holds of the defaults that were filled in: what is given is widened, defaults are taken as
they were declared. -/
theorem complete_keeps_iff (hr : r.Made) (hdistinct : r.Distinct) (ha : a.values.Ordered)
    (h : r.complete a = .ok c) :
    ∃ k, r.get? a.typeName = some k ∧ c.typeName = a.typeName ∧
      (∀ element given, a.values.get? element = some given →
        ∃ v, k.coerced? element given = some v ∧ c.values.get? element = some v) ∧
      (∀ element, a.values.get? element = none → c.values.get? element = k.default? element) ∧
      (∀ spec ∈ k.elements, spec.default.isSome = true → c.values.contains spec.name = true) ∧
      (k.Keeps c.values ↔ k.KeepsDefaults a.values) ∧
      (r.complete c = .ok c ↔ k.KeepsDefaults a.values) := by
  obtain ⟨k, values, hk, hvalues, hc⟩ := (complete_eq_ok ha).mp h
  have htype : k.typeName = a.typeName := hr.typeName hk
  have hnames := hdistinct _ _ hk
  have hget := AnnotationDraft.build_given hnames hvalues
  have hkeeps := AnnotationDraft.keeps_build_iff hnames hvalues
  rw [← hc] at hget hkeeps
  have hagain := complete_again (htype ▸ hk) hnames (ha.of_keys hvalues.keys) hc
  refine ⟨k, hk, ?_, ?_, ?_, ?_, hkeeps, hagain.trans hkeeps⟩
  · rw [hc]
    exact htype
  · intro element given hgiven
    obtain ⟨⟨_, v⟩, _, rfl, hcoerced⟩ :=
      Checked.forall₂_mem_left hvalues (Keyed.mem_of_get? hgiven)
    exact ⟨v, hcoerced, by rw [hget, hgiven, Option.bind_some, hcoerced, Option.some_or]⟩
  · intro element hnone
    rw [hget, hnone, Option.bind_none, Option.none_or]
  · intro spec hspec hsome
    rw [Keyed.contains, hget, AnnotationKind.default?_of_mem hnames hspec, Option.isSome_or,
      hsome, Bool.or_true]

theorem made_builtin : builtin.Made := by
  have hmade (kinds : List AnnotationKind) : ∀ r : AnnotationRegistry, r.Made →
      (kinds.foldl AnnotationRegistry.register r).Made := by
    induction kinds with
    | nil => exact fun r h => h
    | cons k kinds ih => exact fun r h => ih _ (h.register k)
  exact hmade _ _ .empty

theorem distinct_builtin : builtin.Distinct := by
  have hall : ∀ entry ∈ builtin.kinds, (entry.2.elements.map (·.name)).Nodup := by decide +kernel
  exact fun typeName k hget => hall _ (Keyed.mem_of_get? hget)

/-- A reference that is said to be lazy, completed. -/
theorem complete_keeps_iff_lazy :
    let a : Annotation := ⟨AnnotationNames.reference, [("lazy", .bool true)]⟩
    let c : Annotation := ⟨AnnotationNames.reference,
      [("idOnly", .bool false), ("ignoreMissing", .bool false), ("lazy", .bool true),
        ("value", .text ".")]⟩
    builtin.complete a = .ok c ∧
      ∃ k, builtin.get? a.typeName = some k ∧ k.Keeps c.values ∧ builtin.complete c = .ok c := by
  intro a c
  have hcompleted : builtin.complete a = .ok c := rfl
  have hordered : a.values.Ordered := List.pairwise_singleton _ _
  obtain ⟨k, hk, _, _, _, _, hkeeps, hagain⟩ :=
    complete_keeps_iff made_builtin distinct_builtin hordered hcompleted
  have hdefaults : k.KeepsDefaults a.values := by
    cases hk
    intro spec hspec default hdefault _
    simp only [List.mem_cons, List.not_mem_nil, or_false] at hspec
    rcases hspec with rfl | rfl | rfl | rfl <;> cases hdefault <;> rfl
  exact ⟨hcompleted, k, hk, hkeeps.mpr hdefaults, hagain.mpr hdefaults⟩

/-- A kind whose default is not yet of the kind of its element. -/
def weight : AnnotationKind := ⟨"app.Weight", [⟨"grams", .long, some (.int 0)⟩]⟩

/-- A default that its element would widen is filled in as it is: the completed annotation holds an
element that its kind does not leave unchanged, and completing it again changes it. -/
theorem complete_unwidened :
    let r := empty.register weight
    let c : Annotation := ⟨"app.Weight", [("grams", .int 0)]⟩
    r.Made ∧ r.Distinct ∧ r.complete (.ofType "app.Weight") = .ok c ∧ ¬ weight.Keeps c.values ∧
      r.complete c = .ok ⟨"app.Weight", [("grams", .long 0)]⟩ ∧ r.complete c ≠ .ok c := by
  intro r c
  have hagain : r.complete c = .ok ⟨"app.Weight", [("grams", .long 0)]⟩ := rfl
  refine ⟨.register .empty weight, fun typeName k hget => ?_, rfl, fun hkeeps => ?_, hagain, ?_⟩
  · obtain ⟨_, rfl⟩ := Prod.mk.inj (List.mem_singleton.mp (Keyed.mem_of_get? hget))
    decide
  · have hkept : weight.coerced? "grams" (.int 0) = some (.int 0) := hkeeps "grams" (.int 0) rfl
    cases hkept
  · rw [hagain]
    simp [c]

end AnnotationRegistry

end EntityForge
