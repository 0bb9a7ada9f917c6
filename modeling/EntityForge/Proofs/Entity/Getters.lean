import EntityForge.Proofs.Entity.Discovery

/-!
Getters and setters by their names. A getter is named after its property, the setter of the property
after the getter's, and the field behind a method after either; the three namings agree where the
first letter after `get` or `is` is an ASCII one.
-/

namespace EntityForge

namespace BeanName

theorem suffix?_append (word x : String) : suffix? word (word ++ x) = some x := by
  simp [suffix?, ← String.length_toList]

theorem suffix?_eq_some {word name x : String} (h : suffix? word name = some x) :
    name = word ++ x := by
  unfold suffix? at h
  split at h
  · next hbegins =>
    obtain ⟨rest, hrest⟩ := List.isPrefixOf_iff_prefix.mp hbegins
    obtain rfl := Option.some.inj h
    rw [← String.toList_inj, String.toList_append, ← hrest]
    simp [← String.length_toList]
  · cases h

/-- A capital of ASCII has one small letter, whose capital it is. -/
private theorem capital_ascii {c : Char} (hascii : c.toNat < 128)
    (hcapital : Text.isUppercase c = true) :
    Text.uppercaseChar c = [c] ∧
      ∃ d, Text.lowercaseChar c = [d] ∧ Text.uppercaseChar d = [c] := by
  have hall : ∀ code : Fin 128, Text.isUppercase (Char.ofNat code) = true →
      Text.uppercaseChar (Char.ofNat code) = [Char.ofNat code] ∧
      Text.lowercaseChar (Char.ofNat code) = [Char.ofNat (code + 32)] ∧
      Text.uppercaseChar (Char.ofNat (code + 32)) = [Char.ofNat code] := by
    decide +kernel
  have hletter := hall ⟨c.toNat, hascii⟩
  simp only [Char.ofNat_toNat] at hletter
  obtain ⟨hupper, hlower, hback⟩ := hletter hcapital
  exact ⟨hupper, _, hlower, hback⟩

/-- The name of a property gives back what it was taken from. -/
theorem capitalize_decapitalize {x : String} {c : Char} {rest : List Char}
    (hx : x.toList = c :: rest) (hascii : c.toNat < 128) (hcapital : Text.isUppercase c = true) :
    capitalize (decapitalize x) = x := by
  obtain ⟨hupper, d, hlower, hback⟩ := capital_ascii hascii hcapital
  rw [← String.toList_inj, hx]
  unfold decapitalize
  rw [hx]
  cases rest with
  | nil => simp [capitalize, hlower, hback]
  | cons e rest =>
    simp only
    split
    · simp [capitalize, hx, hupper]
    · simp [capitalize, hlower, hback]

end BeanName

/-- A method has the name of a getter of what follows. -/
def MethodMeta.IsGetterOf (m : MethodMeta) (x : String) : Prop :=
  m.name = "get" ++ x ∨ m.name = "is" ++ x

namespace MethodMeta

variable {m : MethodMeta} {x y : String}

/-- What follows `get` or `is` is in the name only once. -/
theorem IsGetterOf.unique (h : m.IsGetterOf x) (h' : m.IsGetterOf y) : x = y := by
  have hapart (a b : String) : "get" ++ a ≠ "is" ++ b := by
    intro heq
    have hheads := congrArg (fun s => s.toList.head?) heq
    simp at hheads
  obtain h | h := h <;> obtain h' | h' := h' <;> have heq := h.symm.trans h'
  · exact (String.append_right_inj _).mp heq
  · exact absurd heq (hapart x y)
  · exact absurd heq.symm (hapart y x)
  · exact (String.append_right_inj _).mp heq

/-- The property of a getter is named after it, and the name of its setter is the getter's. -/
theorem IsGetterOf.property (h : m.IsGetterOf x) (hascii : ∀ c ∈ m.name.toList, c.toNat < 128)
    {property : String} (hproperty : m.getterProperty? = some property) :
    property = BeanName.decapitalize x ∧ BeanName.capitalize property = x := by
  unfold getterProperty? at hproperty
  dsimp only at hproperty
  split at hproperty
  · obtain ⟨y, hy, hletter⟩ := Option.bind_eq_some_iff.mp hproperty
    have hgets : m.IsGetterOf y := by
      split at hy
      · next hget =>
        obtain rfl := Option.some.inj hy
        exact .inl (BeanName.suffix?_eq_some hget)
      · split at hy
        · exact .inr (BeanName.suffix?_eq_some hy)
        · cases hy
    obtain rfl := h.unique hgets
    cases hx : x.toList with
    | nil =>
      rw [hx] at hletter
      cases hletter
    | cons c rest =>
      rw [hx] at hletter
      dsimp only at hletter
      split at hletter
      · next hcapital =>
        obtain rfl := Option.some.inj hletter
        have hfirst : c.toNat < 128 := by
          apply hascii
          obtain hname | hname := h <;> simp [hname, hx]
        exact ⟨rfl, BeanName.capitalize_decapitalize hx hfirst hcapital⟩
      · cases hletter
  · cases hproperty

theorem IsGetterOf.plain (h : m.IsGetterOf x) : m.name.toList.head? ≠ some '<' := by
  obtain hname | hname := h <;> simp [hname]

end MethodMeta

namespace ClassMeta

variable {c : ClassMeta} {m : MethodMeta} {f : FieldMeta} {x : String}

/-- A property has a setter exactly if one is declared. -/
theorem setter?_isSome_iff {property returned : String} :
    (c.setter? property returned).isSome = true ↔
      ∃ m, c.DeclaresSetter (BeanName.capitalize property) returned m := by
  constructor
  · intro h
    obtain ⟨w, hw⟩ := Option.isSome_iff_exists.mp h
    obtain ⟨m, hm, _⟩ := setter?_eq_some hw
    exact ⟨m, hm⟩
  · rintro ⟨m, hm⟩
    unfold setter?
    rw [Option.isSome_map, List.find?_isSome]
    exact ⟨m, hm.member, by simp [hm.name, hm.descriptor, hm.nonstatic]⟩

/-- The code of a method follows from its role, unless it is a constructor. -/
theorem methodCode_plain (h : m.name.toList.head? ≠ some '<') :
    c.methodCode m = match c.role? m with
      | some (.reads f) => readCode c.name f.name
      | some (.writes f) => writeCode c.name f.name
      | none => [.throw (c.name ++ "." ++ m.name ++ m.descriptor ++ " has no compiled body")] := by
  refine if_neg fun hconstructor => h ?_
  rw [hconstructor.1]
  rfl

/-! Roles. A setter and a getter that are named alike have one field behind them. -/

theorem fieldBehind?_eq_some (h : c.fieldBehind? x = some f) :
    f ∈ c.fields ∧ f.name = BeanName.decapitalize x ∧ f.has AccessFlag.isStatic = false := by
  unfold fieldBehind? at h
  split at h
  · cases h
  · have hfound := List.find?_some h
    simp only [Bool.and_eq_true, decide_eq_true_eq, Bool.not_eq_true'] at hfound
    exact ⟨List.mem_of_find?_eq_some h, hfound⟩

/-- A setter writes the field behind its name, or it has no role. -/
theorem DeclaresSetter.role {descriptor : String} (h : c.DeclaresSetter x descriptor m) :
    c.role? m = none ∨ ∃ f, c.role? m = some (.writes f) ∧ c.fieldBehind? x = some f ∧
      f.descriptor = descriptor := by
  unfold role?
  split
  · exact .inl rfl
  · rw [h.name, BeanName.suffix?_append]
    dsimp only
    cases c.fieldBehind? x with
    | none => exact .inl rfl
    | some f =>
      rw [Option.filter_some]
      split
      · next htakes =>
        right
        refine ⟨f, rfl, rfl, ?_⟩
        have htakes := h.descriptor.symm.trans (of_decide_eq_true htakes)
        rw [String.append_left_inj, String.append_right_inj] at htakes
        exact htakes.symm
      · exact .inl rfl

/-- A getter reads the field behind its name, if it returns the type of the field. -/
theorem role?_getter (hstatic : m.has AccessFlag.isStatic = false)
    (habstract : m.has AccessFlag.isAbstract = false) (hname : m.IsGetterOf x)
    (hbehind : c.fieldBehind? x = some f) (hreturns : m.descriptor = "()" ++ f.descriptor) :
    c.role? m = some (.reads f) := by
  have hset : BeanName.suffix? "set" m.name = none := by
    obtain hname | hname := hname <;> simp [hname, BeanName.suffix?]
  have hsuffix : (BeanName.suffix? "get" m.name).or (BeanName.suffix? "is" m.name) = some x := by
    obtain hname | hname := hname
    · rw [hname, BeanName.suffix?_append, Option.some_or]
    · have hget : BeanName.suffix? "get" m.name = none := by simp [hname, BeanName.suffix?]
      rw [hget, Option.none_or, hname, BeanName.suffix?_append]
  unfold role?
  rw [hstatic, habstract, hset, hsuffix]
  simp [hbehind, hreturns]

/-- A getter and a setter share a field: the one reads it and the other writes it. -/
structure Shares (c : ClassMeta) (getter setter : MethodMeta) (f : FieldMeta) : Prop where
  member : f ∈ c.fields
  nonstatic : f.has AccessFlag.isStatic = false
  reads : c.role? getter = some (.reads f)
  writes : c.role? setter = some (.writes f)

/-- A setter shares a field with the getter of its name and type, or it has no role. -/
theorem DeclaresSetter.shares {descriptor : String} {w getter : MethodMeta}
    (h : c.DeclaresSetter x descriptor w) (hstatic : getter.has AccessFlag.isStatic = false)
    (habstract : getter.has AccessFlag.isAbstract = false) (hname : getter.IsGetterOf x)
    (hreturns : getter.descriptor = "()" ++ descriptor) :
    c.role? w = none ∨ ∃ f, c.Shares getter w f ∧ f.name = BeanName.decapitalize x ∧
      f.descriptor = descriptor := by
  obtain hnone | ⟨f, hwrites, hbehind, hdescriptor⟩ := h.role
  · exact .inl hnone
  · obtain ⟨hmember, hfield, hnonstatic⟩ := fieldBehind?_eq_some hbehind
    have hreads := role?_getter hstatic habstract hname hbehind (hdescriptor ▸ hreturns)
    exact .inr ⟨f, ⟨hmember, hnonstatic, hreads, hwrites⟩, hfield, hdescriptor⟩

end ClassMeta

end EntityForge
