import EntityForge.Entity.Discovery
import EntityForge.Proofs.Checked

/-!
The order of annotations. Members with their annotations in another order are the same properties,
but for the document name: it is given by the first annotation that gives one. So the names of an
entity depend on the order unless, at each property, one annotation makes it the identity or all
names that are given are the same.
-/

namespace EntityForge

namespace Property

/-- The document name of a property under a policy and annotations. -/
def nameUnder (config : MappingConfig) (name : String) (annotations : List Annotation) : String :=
  if annotations.any fun a => a.typeName = AnnotationNames.id then idFieldName
  else (explicitName? annotations).getD (config.propertyName name)

def givenName? (a : Annotation) : Option String :=
  if namingAnnotations.contains a.typeName then a.explicitText? "value" else none

/-- The document names that annotations give, in their order. -/
def givenNames (annotations : List Annotation) : List String := annotations.filterMap givenName?

/-- Annotations settle the document name in any order: one of them makes the property the identity,
or they do not give different names. -/
def Settled (annotations : List Annotation) : Prop :=
  (∃ a ∈ annotations, a.typeName = AnnotationNames.id) ∨
    ∀ n ∈ givenNames annotations, ∀ n' ∈ givenNames annotations, n = n'

instance (annotations : List Annotation) : Decidable (Settled annotations) :=
  inferInstanceAs (Decidable (_ ∨ _))

theorem explicitName?_eq_head? (annotations : List Annotation) :
    explicitName? annotations = (givenNames annotations).head? := List.head?_filterMap.symm

variable {config : MappingConfig} {name : String} {annotations reordered : List Annotation}

theorem nameUnder_id (h : ∃ a ∈ annotations, a.typeName = AnnotationNames.id) :
    nameUnder config name annotations = idFieldName := by
  refine if_pos (List.any_eq_true.mpr ?_)
  obtain ⟨a, ha, hid⟩ := h
  exact ⟨a, ha, decide_eq_true hid⟩

theorem nameUnder_given (h : ¬ ∃ a ∈ annotations, a.typeName = AnnotationNames.id) :
    nameUnder config name annotations =
      (givenNames annotations).head?.getD (config.propertyName name) := by
  rw [← explicitName?_eq_head?]
  refine if_neg fun hany => h ?_
  obtain ⟨a, ha, hid⟩ := List.any_eq_true.mp hany
  exact ⟨a, ha, of_decide_eq_true hid⟩

/-- Any of the given names is the document name in some order. -/
theorem nameUnder_first (config : MappingConfig) (name : String)
    (hid : ¬ ∃ a ∈ annotations, a.typeName = AnnotationNames.id) {n : String}
    (hn : n ∈ givenNames annotations) :
    ∃ reordered, reordered.Perm annotations ∧ nameUnder config name reordered = n := by
  obtain ⟨a, ha, hgives⟩ := List.mem_filterMap.mp hn
  obtain ⟨before, after, rfl⟩ := List.append_of_mem ha
  have hperm : (a :: (before ++ after)).Perm (before ++ a :: after) := List.perm_middle.symm
  refine ⟨_, hperm, ?_⟩
  rw [nameUnder_given fun ⟨b, hb, hbid⟩ => hid ⟨b, hperm.mem_iff.mp hb, hbid⟩, givenNames,
    List.filterMap_cons_some hgives]
  rfl

/-- The document name is the same in every order exactly if the annotations settle it. -/
theorem nameUnder_perm_iff :
    (∀ reordered, reordered.Perm annotations →
      nameUnder config name reordered = nameUnder config name annotations) ↔
        Settled annotations := by
  constructor
  · intro h
    by_cases hid : ∃ a ∈ annotations, a.typeName = AnnotationNames.id
    · exact .inl hid
    · right
      intro n hn n' hn'
      obtain ⟨first, hfirst, rfl⟩ := nameUnder_first config name hid hn
      obtain ⟨second, hsecond, rfl⟩ := nameUnder_first config name hid hn'
      rw [h first hfirst, h second hsecond]
  · rintro hsettled reordered hperm
    by_cases hid : ∃ a ∈ annotations, a.typeName = AnnotationNames.id
    · obtain ⟨a, ha, htype⟩ := hid
      rw [nameUnder_id ⟨a, ha, htype⟩, nameUnder_id ⟨a, hperm.mem_iff.mpr ha, htype⟩]
    · have hsame := hsettled.resolve_left hid
      have hnames : (givenNames reordered).Perm (givenNames annotations) := hperm.filterMap _
      rw [nameUnder_given hid,
        nameUnder_given fun ⟨a, ha, htype⟩ => hid ⟨a, hperm.mem_iff.mp ha, htype⟩]
      congr 1
      cases hgiven : givenNames reordered with
      | nil => rw [hgiven] at hnames; rw [hnames.nil_eq]
      | cons n rest =>
        have hn : n ∈ givenNames annotations := hnames.mem_iff.mp (hgiven ▸ List.mem_cons_self)
        cases hother : givenNames annotations with
        | nil => rw [hother] at hn; cases hn
        | cons n' rest' => exact congrArg some (hsame n hn n' (hother ▸ List.mem_cons_self))

inductive Redescribed (config : MappingConfig) (R : List Annotation → List Annotation → Prop) :
    Property → Property → Prop
  | intro (name : String) (type : TypeTree) (access : PropertyAccess) (constant : Bool)
      {annotations annotations' : List Annotation} (h : R annotations annotations') :
      Redescribed config R (describe config name type access annotations constant)
        (describe config name type access annotations' constant)

theorem Redescribed.names {R : List Annotation → List Annotation → Prop} {p p' : Property}
    (h : Redescribed config R p p') :
    p'.name = p.name ∧ p.mappedName = nameUnder config p.name p.annotations ∧
      p'.mappedName = nameUnder config p.name p'.annotations ∧ R p.annotations p'.annotations := by
  cases h with
  | intro name type access constant h => exact ⟨rfl, rfl, rfl, h⟩

end Property

/-! Classes with other annotations on their members. -/

section Reannotated

variable {R : List Annotation → List Annotation → Prop}

structure FieldMeta.Reannotated (R : List Annotation → List Annotation → Prop) (f f' : FieldMeta) :
    Prop where
  annotations : R f.annotations f'.annotations
  rest : f' = { f with annotations := f'.annotations }

structure MethodMeta.Reannotated (R : List Annotation → List Annotation → Prop)
    (m m' : MethodMeta) : Prop where
  annotations : R m.annotations m'.annotations
  rest : m' = { m with annotations := m'.annotations }

structure ClassMeta.Reannotated (R : List Annotation → List Annotation → Prop)
    (c c' : ClassMeta) : Prop where
  fields : List.Forall₂ (FieldMeta.Reannotated R) c.fields c'.fields
  methods : List.Forall₂ (MethodMeta.Reannotated R) c.methods c'.methods
  rest : c' = { c with fields := c'.fields, methods := c'.methods }

/-- A class with its members' annotations in another order, each in its own one. -/
abbrev ClassMeta.Reordered : ClassMeta → ClassMeta → Prop :=
  ClassMeta.Reannotated fun annotations annotations' => annotations'.Perm annotations

variable {config : MappingConfig} {c c' : ClassMeta}

private theorem find?_reannotated {methods methods' : List MethodMeta}
    (h : List.Forall₂ (MethodMeta.Reannotated R) methods methods')
    (wanted : String → String → UInt16 → Bool) :
    (methods'.find? fun m => wanted m.name m.descriptor m.flags).map
        (fun m => MethodRef.mk m.name m.descriptor) =
      (methods.find? fun m => wanted m.name m.descriptor m.flags).map
        (fun m => MethodRef.mk m.name m.descriptor) := by
  induction h with
  | nil => rfl
  | @cons m _ _ _ hm _ ih =>
    rw [List.find?_cons, List.find?_cons, hm.rest]
    cases wanted m.name m.descriptor m.flags with
    | true => rfl
    | false => exact ih

/-- Setters are found by name, descriptor and flags. -/
theorem ClassMeta.Reannotated.setter? (h : c.Reannotated R c') (property returned : String) :
    c'.setter? property returned = c.setter? property returned :=
  find?_reannotated h.methods fun name descriptor flags =>
    name = "set" ++ BeanName.capitalize property && descriptor = "(" ++ returned ++ ")V" &&
      !AccessFlag.within AccessFlag.isStatic flags

/-- Which fields are properties does not depend on the order of their annotations. -/
theorem FieldMeta.Reannotated.admits {f f' : FieldMeta} (h : f.Reannotated R f')
    (hperm : f'.annotations.Perm f.annotations) :
    config.admitsField f = true ↔ config.admitsField f' = true := by
  rw [h.rest]
  simp only [MappingConfig.admitsField, MappingConfig.marksTransient, MappingConfig.marksProperty,
    hperm.any_eq]

theorem MethodMeta.Reannotated.admits {m m' : MethodMeta} (h : m.Reannotated R m')
    (hperm : m'.annotations.Perm m.annotations) :
    config.admitsMethod m = true ↔ config.admitsMethod m' = true := by
  rw [h.rest]
  simp only [MappingConfig.admitsMethod, MappingConfig.marksTransient, MappingConfig.marksProperty,
    hperm.any_eq]

theorem Property.ofField_reannotated (entity : String) {f f' : FieldMeta} (h : f.Reannotated R f') :
    Checked.Alike (Redescribed config R) (ofField config entity f) (ofField config entity f') := by
  have hsignature : f'.typeSignature = f.typeSignature := by rw [h.rest]; rfl
  have hname : f'.name = f.name := by rw [h.rest]
  have hconstant : f'.has AccessFlag.isFinal = f.has AccessFlag.isFinal := by rw [h.rest]; rfl
  unfold ofField
  rw [hsignature, hname, hconstant]
  cases (Signature.parseType f.typeSignature).mapError
      (GenerationError.signature entity f.name f.typeSignature) with
  | error e => exact .error e
  | ok type => exact .ok (.intro _ _ _ _ h.annotations)

theorem Property.ofGetter_reannotated {m m' : MethodMeta} (h : c.Reannotated R c')
    (hm : m.Reannotated R m') :
    Checked.Alike (Redescribed config R) (ofGetter config c m) (ofGetter config c' m') := by
  have hproperty : m'.getterProperty? = m.getterProperty? := by rw [hm.rest]; rfl
  have hsignature : m'.typeSignature = m.typeSignature := by rw [hm.rest]; rfl
  have hname : m'.name = m.name := by rw [hm.rest]
  have hdescriptor : m'.descriptor = m.descriptor := by rw [hm.rest]
  have hreturned : m'.returned = m.returned := by rw [hm.rest]; rfl
  have hclass : c'.name = c.name := by rw [h.rest]
  unfold ofGetter
  rw [hproperty, hsignature, hname, hdescriptor, hreturned, hclass]
  cases m.getterProperty? with
  | none => exact .error _
  | some name =>
    dsimp only
    rw [h.setter?]
    cases (MethodType.parse m.typeSignature).mapError
        (GenerationError.signature c.name name m.typeSignature) with
    | error e => exact .error e
    | ok type =>
      cases hresult : type.result with
      | none => simp only [bind, Except.bind, hresult]; exact .error _
      | some result =>
        simp only [bind, Except.bind, hresult]
        exact .ok (.intro _ _ _ _ hm.annotations)

theorem Entity.addGetter_reannotated {known known' : List Property} {m m' : MethodMeta}
    (h : c.Reannotated R c') (hknown : List.Forall₂ (Property.Redescribed config R) known known')
    (hm : m.Reannotated R m') :
    Checked.Alike (List.Forall₂ (Property.Redescribed config R)) (addGetter config c known m)
      (addGetter config c' known' m') := by
  have hclass : c'.name = c.name := by rw [h.rest]
  refine (Property.ofGetter_reannotated h hm).bind fun p p' hp => ?_
  have hnames : known'.map (·.name) = known.map (·.name) := by
    rw [← List.forall₂_eq_eq_eq, List.forall₂_map_left_iff, List.forall₂_map_right_iff]
    exact hknown.flip.imp fun _ _ hq => hq.names.1
  have hany : (known'.any fun q => q.name = p'.name) = known.any fun q => q.name = p.name := by
    rw [hp.names.1]
    have hmapped := congrArg (fun names => names.any fun name => decide (name = p.name)) hnames
    rwa [List.any_map, List.any_map] at hmapped
  rw [hany, hclass, hp.names.1]
  split
  · exact .error _
  · exact .ok (List.rel_append hknown (.cons hp .nil))

/-- Discovery of the same members with their annotations in another order: it fails alike, or it
gives the same properties with these annotations. -/
theorem Entity.discover_reannotated (h : c.Reannotated R c')
    (hR : ∀ annotations annotations', R annotations annotations' →
      annotations'.Perm annotations) :
    Checked.Alike (fun e e' => List.Forall₂ (Property.Redescribed config R) e.properties
      e'.properties) (discover config c) (discover config c') := by
  have hclass : c'.name = c.name := by rw [h.rest]
  have hfields : List.Forall₂ (FieldMeta.Reannotated R) (c.fields.filter config.admitsField)
      (c'.fields.filter config.admitsField) :=
    List.rel_filter (fun _ _ hf => hf.admits (hR _ _ hf.annotations)) h.fields
  have hmethods : List.Forall₂ (MethodMeta.Reannotated R) (c.methods.filter config.admitsMethod)
      (c'.methods.filter config.admitsMethod) :=
    List.rel_filter (fun _ _ hm => hm.admits (hR _ _ hm.annotations)) h.methods
  unfold discover
  rw [hclass]
  refine (Checked.Alike.mapM hfields fun _ _ hf =>
    Property.ofField_reannotated c.name hf).bind fun fields fields' hknown => ?_
  refine (Checked.Alike.foldlM hmethods hknown fun _ _ _ _ hknown hm =>
    addGetter_reannotated h hknown hm).bind fun properties properties' hproperties => ?_
  exact .ok hproperties

def ClassMeta.mapAnnotations (c : ClassMeta) (arrange : List Annotation → List Annotation) :
    ClassMeta :=
  { c with
    fields := c.fields.map fun f => { f with annotations := arrange f.annotations }
    methods := c.methods.map fun m => { m with annotations := arrange m.annotations } }

theorem ClassMeta.mapAnnotations_reannotated (c : ClassMeta)
    {arrange : List Annotation → List Annotation}
    (h : ∀ annotations, R annotations (arrange annotations)) :
    c.Reannotated R (c.mapAnnotations arrange) where
  fields := List.forall₂_map_right_iff.mpr (List.forall₂_same.mpr fun _ _ => ⟨h _, rfl⟩)
  methods := List.forall₂_map_right_iff.mpr (List.forall₂_same.mpr fun _ _ => ⟨h _, rfl⟩)
  rest := rfl

end Reannotated

namespace Entity

open Property

variable {config : MappingConfig} {c : ClassMeta} {e : Entity}

private theorem names_eq {R : List Annotation → List Annotation → Prop}
    {properties properties' : List Property}
    (h : List.Forall₂ (Redescribed config R) properties properties')
    (hsame : ∀ p ∈ properties, ∀ annotations, R p.annotations annotations →
      nameUnder config p.name annotations = nameUnder config p.name p.annotations) :
    properties'.map (·.mappedName) = properties.map (·.mappedName) := by
  induction h with
  | nil => rfl
  | cons hp _ ih =>
    obtain ⟨_, hname, hname', hR⟩ := hp.names
    obtain ⟨hfirst, hrest⟩ := List.forall_mem_cons.mp hsame
    rw [List.map_cons, List.map_cons, hname, hname', hfirst _ hR, ih hrest]

/-- Where annotations are arranged in one way, each property has the name under the arranged ones. -/
private theorem names_arranged {arrange : List Annotation → List Annotation}
    {properties properties' : List Property}
    (h : List.Forall₂ (Redescribed config fun before after => after = arrange before) properties
      properties')
    (hsame : properties'.map (·.mappedName) = properties.map (·.mappedName)) :
    ∀ p ∈ properties, nameUnder config p.name (arrange p.annotations) =
      nameUnder config p.name p.annotations := by
  induction h with
  | nil => exact List.forall_mem_nil _
  | cons hp _ ih =>
    obtain ⟨_, hname, hname', hannotations⟩ := hp.names
    obtain ⟨hfirst, hrest⟩ := List.cons.inj hsame
    refine List.forall_mem_cons.mpr ⟨?_, ih hrest⟩
    rw [← hannotations, ← hname', ← hname]
    exact hfirst

/-- Some way of arranging annotations puts one list of them in a given order. -/
private theorem exists_arrange {annotations reordered : List Annotation}
    (h : reordered.Perm annotations) :
    ∃ arrange : List Annotation → List Annotation,
      arrange annotations = reordered ∧ ∀ others, (arrange others).Perm others := by
  classical
  refine ⟨fun others => if others = annotations then reordered else others, if_pos rfl, ?_⟩
  intro others
  dsimp only
  split
  · next heq => rwa [heq]
  · exact List.Perm.refl others

/-- Reordering the annotations of members, each in its own way, leaves every document name of an
entity as it is exactly if the annotations of each property settle it: one of them makes the
property the identity, or no two of them give different names. Otherwise the order decides. -/
theorem mappedNames_settled (h : discover config c = .ok e) :
    (∀ c', c.Reordered c' → ∃ e', discover config c' = .ok e' ∧
        e'.properties.map (·.mappedName) = e.properties.map (·.mappedName)) ↔
      ∀ p ∈ e.properties, Settled p.annotations := by
  constructor
  · intro hsame p hp
    refine (@nameUnder_perm_iff config p.name _).mp fun reordered hperm => ?_
    -- All members that are annotated like this property get the new order.
    obtain ⟨arrange, hhere, harrange⟩ := exists_arrange hperm
    obtain ⟨e', he', hnames⟩ := hsame _ (c.mapAnnotations_reannotated harrange)
    have hexactly : c.Reannotated (fun before after => after = arrange before)
        (c.mapAnnotations arrange) := c.mapAnnotations_reannotated fun _ => rfl
    have halike := @discover_reannotated _ config _ _ hexactly fun before after heq =>
      heq ▸ harrange before
    obtain ⟨_, harranged, hproperties⟩ := halike.of_ok h
    cases he'.symm.trans harranged
    exact hhere ▸ names_arranged hproperties hnames p hp
  · intro hsettled c' hc
    have halike := @discover_reannotated _ config _ _ hc fun _ _ hperm => hperm
    obtain ⟨e', he', hproperties⟩ := halike.of_ok h
    exact ⟨e', he', names_eq hproperties fun p hp annotations hperm =>
      nameUnder_perm_iff.mpr (hsettled p hp) annotations hperm⟩

/-- An annotation of a type that gives a document name. -/
def naming (typeName given : String) : Annotation := ⟨typeName, [("value", .text given)]⟩

/-- A class with an identity, and with a field that has some annotations. -/
def badge (annotations : List Annotation) : ClassMeta where
  name := "app.Badge"
  fields :=
    [{ name := "key", descriptor := "J"
       annotations := [naming AnnotationNames.property "number", .ofType AnnotationNames.id] },
     { name := "rank", descriptor := "I", annotations }]

theorem mappedNames_settled_badge :
    let rank := [naming AnnotationNames.property "level", naming AnnotationNames.version "level"]
    ∃ e, discover {} (badge rank) = .ok e ∧ e.properties.map (·.mappedName) = ["_id", "level"] ∧
      ∀ c', (badge rank).Reordered c' → ∃ e', discover {} c' = .ok e' ∧
        e'.properties.map (·.mappedName) = e.properties.map (·.mappedName) := by
  intro rank
  have hdiscovered : (discover {} (badge rank)).toOption.map (fun e =>
      (e.properties.map (·.mappedName), decide (∀ p ∈ e.properties, Settled p.annotations))) =
        some (["_id", "level"], true) := by
    decide +kernel
  cases he : discover {} (badge rank) with
  | error fault =>
    rw [he] at hdiscovered
    cases hdiscovered
  | ok e =>
    rw [he] at hdiscovered
    obtain ⟨hnames, hsettled⟩ := Prod.mk.inj (Option.some.inj hdiscovered)
    exact ⟨e, rfl, hnames, (mappedNames_settled he).mpr (of_decide_eq_true hsettled)⟩

/-- Two annotations that give different names: whichever comes first decides. -/
theorem mappedNames_crossed :
    let level := naming AnnotationNames.property "level"
    let revision := naming AnnotationNames.version "revision"
    (badge [level, revision]).Reordered (badge [revision, level]) ∧
      (discover {} (badge [level, revision])).toOption.map
        (fun e => e.properties.map (·.mappedName)) = some ["_id", "level"] ∧
      (discover {} (badge [revision, level])).toOption.map
        (fun e => e.properties.map (·.mappedName)) = some ["_id", "revision"] := by
  intro level revision
  refine ⟨⟨?_, .nil, rfl⟩, by decide +kernel, by decide +kernel⟩
  exact .cons ⟨List.Perm.refl _, rfl⟩ (.cons ⟨List.Perm.swap _ _ _, rfl⟩ .nil)

end Entity

end EntityForge
