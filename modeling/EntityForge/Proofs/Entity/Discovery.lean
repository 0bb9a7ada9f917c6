import EntityForge.Class.Body
import EntityForge.Entity.Discovery
import EntityForge.Generated.EntityClass
import EntityForge.Proofs.Checked
import EntityForge.Proofs.Type.Erasure

/-!
Where properties come from. Each property of a discovered entity stands for a field that instances
have, or for declared methods; its type was resolved, so its erased descriptor denotes a type.
-/

namespace EntityForge

/-- A declared method other than the one that initializes a class. -/
def ClassMeta.Declares (c : ClassMeta) (m : MethodRef) : Prop :=
  m.name ≠ ClassMeta.classInitializer ∧
    ∃ declared ∈ c.methods, declared.name = m.name ∧ declared.descriptor = m.descriptor

namespace ClassMeta

variable {c : ClassMeta}

/-- A method that instances have is declared as the setter of what its name goes on with, for values
of one type. -/
structure DeclaresSetter (c : ClassMeta) (x descriptor : String) (m : MethodMeta) : Prop where
  member : m ∈ c.methods
  nonstatic : m.has AccessFlag.isStatic = false
  name : m.name = "set" ++ x
  descriptor : m.descriptor = "(" ++ descriptor ++ ")V"

/-- Names of constructors and initializers are bracketed, those of setters are not. -/
theorem DeclaresSetter.plain {x descriptor : String} {m : MethodMeta}
    (h : c.DeclaresSetter x descriptor m) : m.name.toList.head? ≠ some '<' := by simp [h.name]

theorem setter?_eq_some {property returned : String} {w : MethodRef}
    (h : c.setter? property returned = some w) :
    ∃ m, c.DeclaresSetter (BeanName.capitalize property) returned m ∧
      w = ⟨m.name, m.descriptor⟩ := by
  obtain ⟨m, hfind, rfl⟩ := Option.map_eq_some_iff.mp h
  have hfound := List.find?_some hfind
  simp only [Bool.and_eq_true, decide_eq_true_eq, Bool.not_eq_true'] at hfound
  exact ⟨m, ⟨List.mem_of_find?_eq_some hfind, hfound.2, hfound.1.1, hfound.1.2⟩, rfl⟩

end ClassMeta

inductive Property.FoundIn (c : ClassMeta) (p : Property) : Prop where
  | field (f : FieldMeta) (hmember : f ∈ c.fields) (hinstance : f.has AccessFlag.isStatic = false)
      (hname : p.name = f.name) (haccess : p.access = .field)
  | method (getter : MethodRef) (setter : Option MethodRef) (hgetter : c.Declares getter)
      (hsetter : ∀ m ∈ setter, c.Declares m) (haccess : p.access = .method getter setter)

namespace Property

/-- Members that may be properties are not static. -/
theorem not_static_of_unskipped {flags : UInt16} (h : flags &&& MappingConfig.skippedFlags = 0) :
    AccessFlag.within AccessFlag.isStatic flags = false := by
  have hpart : MappingConfig.skippedFlags &&& AccessFlag.isStatic = AccessFlag.isStatic := by
    decide
  have hstatic : flags &&& AccessFlag.isStatic = 0 := by
    rw [← hpart, ← UInt16.and_assoc, h, UInt16.zero_and]
  simp [AccessFlag.within, hstatic]

theorem not_static_of_admitted {config : MappingConfig} {f : FieldMeta}
    (h : config.admitsField f = true) : f.has AccessFlag.isStatic = false := by
  unfold MappingConfig.admitsField at h
  rw [Bool.and_eq_true, Bool.and_eq_true] at h
  exact not_static_of_unskipped (by simpa using h.1.1)

theorem ofField_found {config : MappingConfig} {c : ClassMeta} {f : FieldMeta} {p : Property}
    (hmember : f ∈ c.fields) (hadmits : config.admitsField f = true)
    (h : ofField config c.name f = .ok p) : p.FoundIn c ∧ p.type.WellFormed := by
  obtain ⟨type, htype, heq⟩ := Checked.bind_eq_ok.mp h
  cases heq
  refine ⟨.field f hmember (not_static_of_admitted hadmits) rfl rfl, ?_⟩
  cases hparse : Signature.parseType f.typeSignature with
  | error e =>
    rw [hparse] at htype
    cases htype
  | ok t =>
    rw [hparse] at htype
    cases htype
    exact (Signature.spelled_of_parseType hparse).1

private theorem setter_declared {c : ClassMeta} {property returned : String} {w : MethodRef}
    (h : c.setter? property returned = some w) : c.Declares w := by
  obtain ⟨m, hm, rfl⟩ := ClassMeta.setter?_eq_some h
  refine ⟨fun hinitializer => hm.plain ?_, m, hm.member, rfl, rfl⟩
  have hname : m.name = ClassMeta.classInitializer := hinitializer
  rw [hname]
  rfl

private theorem getter_name {m : MethodMeta} {property : String}
    (h : m.getterProperty? = some property) : m.name ≠ ClassMeta.classInitializer := by
  intro hinitializer
  have hget : BeanName.suffix? "get" ClassMeta.classInitializer = none := by decide
  have his : BeanName.suffix? "is" ClassMeta.classInitializer = none := by decide
  unfold MethodMeta.getterProperty? at h
  rw [hinitializer, hget, his] at h
  simp at h

theorem ofGetter_found {config : MappingConfig} {c : ClassMeta} {m : MethodMeta} {p : Property}
    (hmember : m ∈ c.methods) (h : ofGetter config c m = .ok p) :
    p.FoundIn c ∧ p.type.WellFormed := by
  unfold ofGetter at h
  split at h
  · cases h
  · next name hname =>
    obtain ⟨type, htype, h⟩ := Checked.bind_eq_ok.mp h
    have hparse : MethodType.parse m.typeSignature = .ok type := by
      cases hparse : MethodType.parse m.typeSignature with
      | error e =>
        rw [hparse] at htype
        cases htype
      | ok t =>
        rw [hparse] at htype
        cases htype
        rfl
    split at h
    · cases h
    · next result hresult =>
      cases h
      refine ⟨.method ⟨m.name, m.descriptor⟩ _ ⟨getter_name hname, m, hmember, rfl, rfl⟩ ?_ rfl,
        (MethodType.parse_wellFormed hparse).2 result hresult⟩
      intro setter hsetter
      exact setter_declared hsetter

/-- A getter has no parameters, and the rest of its descriptor is what it returns. -/
theorem getter_descriptor {m : MethodMeta} {property : String}
    (h : m.getterProperty? = some property) : m.descriptor = "()" ++ m.returned := by
  unfold MethodMeta.getterProperty? at h
  dsimp only at h
  split at h
  · next hform =>
    rw [Bool.and_eq_true] at hform
    obtain ⟨rest, hrest⟩ := List.isPrefixOf_iff_prefix.mp hform.1
    rw [← String.toList_inj, MethodMeta.returned, ← hrest]
    simp
  · cases h

/-- A setter takes what it is looked up for. -/
theorem setter_descriptor {c : ClassMeta} {property returned : String} {w : MethodRef}
    (h : c.setter? property returned = some w) : w.descriptor = "(" ++ returned ++ ")V" := by
  obtain ⟨m, hm, rfl⟩ := ClassMeta.setter?_eq_some h
  exact hm.descriptor

/-- A property stands for a declared getter, and for its setter if there is one. -/
structure ReadBy (p : Property) (c : ClassMeta) (m : MethodMeta) : Prop where
  member : m ∈ c.methods
  nonstatic : m.has AccessFlag.isStatic = false
  name : m.getterProperty? = some p.name
  access : p.access = .method ⟨m.name, m.descriptor⟩ (c.setter? p.name m.returned)

theorem ofGetter_readBy {config : MappingConfig} {c : ClassMeta} {m : MethodMeta} {p : Property}
    (hmember : m ∈ c.methods) (hadmits : config.admitsMethod m = true)
    (h : ofGetter config c m = .ok p) : p.ReadBy c m := by
  have hstatic : m.has AccessFlag.isStatic = false := by
    unfold MappingConfig.admitsMethod at hadmits
    simp only [Bool.and_eq_true] at hadmits
    exact not_static_of_unskipped (by simpa using hadmits.1.1.2)
  unfold ofGetter at h
  split at h
  · cases h
  · next name hname =>
    obtain ⟨type, _, h⟩ := Checked.bind_eq_ok.mp h
    split at h
    · cases h
    · cases h
      exact ⟨hmember, hstatic, hname, rfl⟩

/-- The getter of a property returns what its setter takes. -/
def Paired (p : Property) : Prop :=
  ∀ getter setter, p.access = .method getter setter → ∃ returned,
    getter.descriptor = "()" ++ returned ∧ ∀ w ∈ setter, w.descriptor = "(" ++ returned ++ ")V"

theorem ofGetter_paired {config : MappingConfig} {c : ClassMeta} {m : MethodMeta} {p : Property}
    (h : ofGetter config c m = .ok p) : p.Paired := by
  unfold ofGetter at h
  split at h
  · cases h
  · next name hname =>
    obtain ⟨type, _, h⟩ := Checked.bind_eq_ok.mp h
    split at h
    · cases h
    · cases h
      rintro getter setter haccess
      cases haccess
      exact ⟨m.returned, getter_descriptor hname, fun w hw => setter_descriptor hw⟩

end Property

namespace Entity

private theorem addGetters_found {config : MappingConfig} {c : ClassMeta} {P : Property → Prop}
    {methods : List MethodMeta} {known properties : List Property}
    (hgetter : ∀ m ∈ methods, ∀ p, Property.ofGetter config c m = .ok p → P p)
    (hknown : ∀ p ∈ known, P p) (h : methods.foldlM (addGetter config c) known = .ok properties) :
    ∀ p ∈ properties, P p := by
  induction methods generalizing known with
  | nil =>
    cases h
    exact hknown
  | cons m methods ih =>
    rw [List.foldlM_cons] at h
    obtain ⟨next, hnext, h⟩ := Checked.bind_eq_ok.mp h
    refine ih (fun m' hm' => hgetter m' (by simp [hm'])) ?_ h
    obtain ⟨p, hp, hnext⟩ := Checked.bind_eq_ok.mp hnext
    split at hnext
    · cases hnext
    · cases hnext
      intro q hq
      rcases List.mem_append.mp hq with hq | hq
      · exact hknown q hq
      · rw [List.mem_singleton.mp hq]
        exact hgetter m (by simp) p hp

structure Describes (e : Entity) (c : ClassMeta) : Prop where
  name : e.name = c.name
  found : ∀ p ∈ e.properties, p.FoundIn c
  denotable : ∀ p ∈ e.properties, p.type.Denotable

/-- What holds of the properties of fields and of getters holds of all properties. -/
private theorem discover_all {config : MappingConfig} {c : ClassMeta} {e : Entity}
    {P : Property → Prop}
    (hfield : ∀ f ∈ c.fields, config.admitsField f = true → ∀ p,
      Property.ofField config c.name f = .ok p → P p)
    (hgetter : ∀ m ∈ c.methods, config.admitsMethod m = true → ∀ p,
      Property.ofGetter config c m = .ok p → P p)
    (h : discover config c = .ok e) : e.name = c.name ∧ ∀ p ∈ e.properties, P p := by
  obtain ⟨fields, hfields, h⟩ := Checked.bind_eq_ok.mp h
  obtain ⟨properties, hproperties, heq⟩ := Checked.bind_eq_ok.mp h
  cases heq
  refine ⟨rfl, addGetters_found ?_ ?_ hproperties⟩
  · intro m hm p hp
    obtain ⟨hmember, hadmits⟩ := List.mem_filter.mp hm
    exact hgetter m hmember hadmits p hp
  · intro p hp
    have hmapped := Checked.mapM_eq_ok.mp hfields
    obtain ⟨f, hf, hok⟩ := Checked.forall₂_mem_right hmapped hp
    obtain ⟨hmember, hadmits⟩ := List.mem_filter.mp hf
    exact hfield f hmember hadmits p hok

/-- Every property stands for members of the class, and its type was resolved. -/
private theorem discover_found {config : MappingConfig} {c : ClassMeta} {e : Entity}
    (h : discover config c = .ok e) :
    e.name = c.name ∧ ∀ p ∈ e.properties, p.FoundIn c ∧ p.type.WellFormed :=
  discover_all (fun _ hmember hadmits _ hok => Property.ofField_found hmember hadmits hok)
    (fun _ hmember _ _ hok => Property.ofGetter_found hmember hok) h

theorem discover_describes {config : MappingConfig} {c : ClassMeta} {e : Entity}
    (h : discover config c = .ok e) : e.Describes c := by
  obtain ⟨hname, hall⟩ := discover_found h
  exact ⟨hname, fun p hp => (hall p hp).1, fun p hp => (hall p hp).2.denotable⟩

/-- An entity without fault is one that was discovered. -/
theorem ofClass_discovers {config : MappingConfig} {c : ClassMeta} {e : Entity}
    (h : ofClass config c = .ok e) : discover config c = .ok e := by
  obtain ⟨e', hdiscover, h⟩ := Checked.bind_eq_ok.mp h
  obtain ⟨_, _, heq⟩ := Checked.bind_eq_ok.mp h
  cases heq
  exact hdiscover

theorem ofClass_describes {config : MappingConfig} {c : ClassMeta} {e : Entity}
    (h : ofClass config c = .ok e) : e.Describes c := discover_describes (ofClass_discovers h)

/-- The type of a property is one that its signature is resolved to. -/
theorem ofClass_wellFormed {config : MappingConfig} {c : ClassMeta} {e : Entity}
    (h : ofClass config c = .ok e) : ∀ p ∈ e.properties, p.type.WellFormed :=
  fun p hp => ((discover_found (ofClass_discovers h)).2 p hp).2

theorem ofClass_paired {config : MappingConfig} {c : ClassMeta} {e : Entity}
    (h : ofClass config c = .ok e) : ∀ p ∈ e.properties, p.Paired := by
  refine (discover_all ?_ (fun _ _ _ _ hok => Property.ofGetter_paired hok)
    (ofClass_discovers h)).2
  intro f _ _ p hok
  obtain ⟨type, _, heq⟩ := Checked.bind_eq_ok.mp hok
  cases heq
  exact nofun

/-- A property that is not a field stands for a getter that the class declares. -/
theorem ofClass_readBy {config : MappingConfig} {c : ClassMeta} {e : Entity}
    (h : ofClass config c = .ok e) :
    ∀ p ∈ e.properties, p.access.isField = false → ∃ m, p.ReadBy c m := by
  refine (discover_all ?_ ?_ (ofClass_discovers h)).2
  · intro f _ _ p hok hmethod
    obtain ⟨type, _, heq⟩ := Checked.bind_eq_ok.mp hok
    cases heq
    cases hmethod
  · intro m hmember hadmits p hok _
    exact ⟨m, Property.ofGetter_readBy hmember hadmits hok⟩

end Entity

end EntityForge
