import EntityForge.Entity.Validation
import EntityForge.Proofs.Entity.Discovery
import EntityForge.Proofs.Text.FaultTree

/-!
The faults of an entity, listed. Claims are checked one after the other against owners that are
registered on the way; what comes of it is said here of the claims as a whole: a claim is a clash
exactly if the first claim of its document name is made by a property of another name. Validation
records the clashes, then that there are several identities, then the identities that are not mapped
to their reserved name, and nothing else.
-/

namespace EntityForge

/-- A fault of an entity: a property claims a document name that another one owns, several
properties are the identity, or an identity does not have its reserved name. -/
inductive EntityFault where
  | clash (property key owner : String)
  | severalIds (names : List String)
  | misnamedId (property : String)
  deriving DecidableEq

/-- Where a fault is recorded, and what is said of it. -/
def EntityFault.entry : EntityFault → Option String × String
  | clash property key owner =>
    (some property, s!"mapped name '{key}' already used by '{owner}'")
  | severalIds names =>
    let names := ", ".intercalate names
    (none, s!"more than one id property: {names}")
  | misnamedId property => (some property, "id property must map to '_id'")

namespace Entity

/-- What properties claim: the name of each with its mapped name and then with its load names. -/
def allClaims (properties : List Property) : List (String × String) :=
  properties.flatMap fun p => (p.mappedName :: p.loadNames).map (p.name, ·)

/-- The property name under which a document name is claimed first. -/
def firstOwner? (claims : List (String × String)) (key : String) : Option String :=
  (claims.find? (·.2 = key)).map (·.1)

/-- A claim clashes where the first one of its document name is made under another name. -/
def clash? (claims : List (String × String)) (entry : String × String) : Option EntityFault :=
  match firstOwner? claims entry.2 with
  | none => none
  | some owner => if owner = entry.1 then none else some (.clash entry.1 entry.2 owner)

/-- The faults of an entity in the order in which they are found. -/
def faultList (e : Entity) : List EntityFault :=
  let claims := allClaims e.properties
  let ids := e.properties.filter (·.flags.id)
  claims.filterMap (clash? claims) ++
    (if 1 < ids.length then [.severalIds (ids.map (·.name))] else []) ++
    (ids.filter (·.mappedName ≠ "_id")).map fun p => .misnamedId p.name

theorem mem_allClaims {properties : List Property} {owner key : String} :
    (owner, key) ∈ allClaims properties ↔
      ∃ p ∈ properties, p.name = owner ∧ key ∈ p.mappedName :: p.loadNames := by
  simp only [allClaims, List.mem_flatMap, List.mem_map, Prod.mk.injEq]
  constructor
  · rintro ⟨p, hp, key', hkey, rfl, rfl⟩
    exact ⟨p, hp, rfl, hkey⟩
  · rintro ⟨p, hp, rfl, hkey⟩
    exact ⟨p, hp, key, hkey, rfl, rfl⟩

/-! Clashes. -/

section Owner

variable {claims more : List (String × String)} {key owner : String}

theorem firstOwner?_append_of_some (h : firstOwner? claims key = some owner) :
    firstOwner? (claims ++ more) key = some owner := by
  obtain ⟨entry, hentry, rfl⟩ := Option.map_eq_some_iff.mp h
  rw [firstOwner?, List.find?_append, hentry, Option.some_or, Option.map_some]

theorem firstOwner?_append_of_none (h : firstOwner? claims key = none) :
    firstOwner? (claims ++ more) key = firstOwner? more key := by
  have hnone := Option.map_eq_none_iff.mp h
  rw [firstOwner?, List.find?_append, hnone, Option.none_or, firstOwner?]

theorem firstOwner?_cons (entry : String × String) (claims : List (String × String))
    (key : String) :
    firstOwner? (entry :: claims) key =
      if key = entry.2 then some entry.1 else firstOwner? claims key := by
  rw [firstOwner?, List.find?_cons]
  by_cases h : entry.2 = key
  · simp [h]
  · simp [h, Ne.symm h, firstOwner?]

theorem mem_of_firstOwner? (h : firstOwner? claims key = some owner) : (owner, key) ∈ claims := by
  obtain ⟨⟨name, key'⟩, hfind, rfl⟩ := Option.map_eq_some_iff.mp h
  have hkey : key' = key := by simpa using List.find?_some hfind
  exact hkey ▸ List.mem_of_find?_eq_some hfind

theorem firstOwner?_of_mem (h : (owner, key) ∈ claims) :
    ∃ first, firstOwner? claims key = some first := by
  cases hfirst : firstOwner? claims key with
  | some first => exact ⟨first, rfl⟩
  | none =>
    have hnone := List.find?_eq_none.mp (Option.map_eq_none_iff.mp hfirst) _ h
    simp at hnone

end Owner

/-- Claims are checked behind others whose owners are registered. Which of them clash depends on all
claims so far, and on none that come later, for whoever claims a name is an owner if nobody was. -/
private theorem foldl_claim {owners : Keyed String} {claims : List (String × String)}
    (howners : ∀ key, owners.get? key = firstOwner? claims key)
    (entries : List (String × String)) (tree : FaultTree) :
    (entries.foldl (fun state entry => claim state entry.1 entry.2) (owners, tree)).2 =
      ((entries.filterMap (clash? (claims ++ entries))).map EntityFault.entry).foldl
        FaultTree.record tree := by
  induction entries generalizing owners claims tree with
  | nil => rfl
  | cons entry entries ih =>
    obtain ⟨name, key⟩ := entry
    have hsplit : claims ++ (name, key) :: entries = claims ++ [(name, key)] ++ entries := by simp
    rw [List.foldl_cons, List.filterMap_cons, clash?]
    dsimp only
    cases hfirst : firstOwner? claims key with
    | none =>
      have hnew : firstOwner? (claims ++ (name, key) :: entries) key = some name := by
        rw [firstOwner?_append_of_none hfirst, firstOwner?_cons, if_pos rfl]
      have hclaim : claim (owners, tree) name key = (owners.insert key name, tree) := by
        simp only [claim, howners, hfirst]
      rw [hnew, hclaim, hsplit]
      simp only [if_true]
      refine ih (fun other => ?_) tree
      rw [Keyed.get?_insert, howners]
      split
      · next heq => rw [heq, firstOwner?_append_of_none hfirst, firstOwner?_cons, if_pos rfl]
      · next hne =>
        cases hother : firstOwner? claims other with
        | none => rw [firstOwner?_append_of_none hother, firstOwner?_cons, if_neg hne]; rfl
        | some owner => rw [firstOwner?_append_of_some hother]
    | some first =>
      have hagain (other : String) :
          owners.get? other = firstOwner? (claims ++ [(name, key)]) other := by
        rw [howners]
        cases hother : firstOwner? claims other with
        | none =>
          have hne : other ≠ key := by
            rintro rfl
            cases hother.symm.trans hfirst
          rw [firstOwner?_append_of_none hother, firstOwner?_cons, if_neg hne]; rfl
        | some owner => rw [firstOwner?_append_of_some hother]
      rw [firstOwner?_append_of_some hfirst, hsplit]
      by_cases hsame : first = name
      · have hclaim : claim (owners, tree) name key = (owners, tree) := by
          simp only [claim, howners, hfirst, if_pos hsame]
        rw [hclaim]
        simp only [if_pos hsame]
        exact ih hagain tree
      · have hclaim : claim (owners, tree) name key =
            (owners, tree.record (EntityFault.clash name key first).entry) := by
          simp only [claim, howners, hfirst, if_neg hsame]
          rfl
        rw [hclaim]
        simp only [if_neg hsame, List.map_cons, List.foldl_cons]
        exact ih hagain _

theorem clashes_eq (properties : List Property) :
    clashes properties = (((allClaims properties).filterMap (clash? (allClaims properties))).map
      EntityFault.entry).foldl FaultTree.record FaultTree.none := by
  have hfold : clashes properties = ((allClaims properties).foldl (fun state entry =>
      claim state entry.1 entry.2) ([], FaultTree.none)).2 := by
    simp only [clashes, allClaims, Property.claims, List.foldl_flatMap, List.foldl_map]
  have howners : ∀ key, Keyed.get? ([] : Keyed String) key = firstOwner? [] key := fun _ => rfl
  rw [hfold]
  exact foldl_claim howners _ _

/-! All faults. -/

private theorem foldl_idNames (ids : List Property) (tree : FaultTree) :
    ids.foldl (fun tree p => if p.mappedName ≠ idFieldName then
        tree.addAt p.name s!"id property must map to '{idFieldName}'" else tree) tree =
      (((ids.filter (·.mappedName ≠ idFieldName)).map fun p =>
        EntityFault.misnamedId p.name).map EntityFault.entry).foldl FaultTree.record tree := by
  induction ids generalizing tree with
  | nil => rfl
  | cons p ids ih =>
    rw [List.foldl_cons, ih]
    by_cases hname : p.mappedName = idFieldName
    · simp [hname]
    · rw [if_pos hname, List.filter_cons_of_pos (by simpa using hname)]
      rfl

theorem faults_eq (e : Entity) :
    e.faults = (e.faultList.map EntityFault.entry).foldl FaultTree.record FaultTree.none := by
  unfold faults faultList
  dsimp only
  rw [foldl_idNames, List.map_append, List.map_append, List.foldl_append, List.foldl_append,
    ← clashes_eq]
  split <;> rfl

theorem faults_holds (e : Entity) : e.faults.Holds (e.faultList.map EntityFault.entry) := by
  rw [faults_eq]
  exact FaultTree.holds_none.records _

theorem validate_eq (e : Entity) :
    e.validate = if e.faultList = [] then .ok () else .error e.faults := by
  rw [validate, e.faults_holds.toResult]
  simp only [List.map_eq_nil_iff]

/-- No claim clashes exactly if each document name is claimed under one property name. -/
theorem clashFree_iff {properties : List Property} :
    (allClaims properties).filterMap (clash? (allClaims properties)) = [] ↔
      ∀ p ∈ properties, ∀ q ∈ properties, ∀ key ∈ p.mappedName :: p.loadNames,
        key ∈ q.mappedName :: q.loadNames → p.name = q.name := by
  rw [List.filterMap_eq_nil_iff]
  constructor
  · intro h
    -- Both properties are found to have the name of the first one that claims the key.
    have hfirst : ∀ p ∈ properties, ∀ key ∈ p.mappedName :: p.loadNames,
        firstOwner? (allClaims properties) key = some p.name := by
      intro p hp key hkey
      have hmem := mem_allClaims.mpr ⟨p, hp, rfl, hkey⟩
      obtain ⟨owner, howner⟩ := firstOwner?_of_mem hmem
      have hclash := h _ hmem
      rw [clash?, howner] at hclash
      dsimp only at hclash
      split at hclash
      · next heq => rw [howner, heq]
      · cases hclash
    intro p hp q hq key hkey hkey'
    exact Option.some.inj ((hfirst p hp key hkey).symm.trans (hfirst q hq key hkey'))
  · rintro h ⟨name, key⟩ hmem
    obtain ⟨owner, howner⟩ := firstOwner?_of_mem hmem
    obtain ⟨p, hp, rfl, hkey⟩ := mem_allClaims.mp (mem_of_firstOwner? howner)
    obtain ⟨q, hq, rfl, hkey'⟩ := mem_allClaims.mp hmem
    rw [clash?, howner]
    exact if_pos (h p hp q hq key hkey hkey')

/-- An entity has no fault exactly if no document name is shared by properties of different names,
at most one property is the identity, and identities have their reserved name. -/
theorem validate_eq_ok_iff {e : Entity} :
    e.validate = .ok () ↔
      (∀ p ∈ e.properties, ∀ q ∈ e.properties, ∀ key ∈ p.mappedName :: p.loadNames,
        key ∈ q.mappedName :: q.loadNames → p.name = q.name) ∧
      (e.properties.filter (·.flags.id)).length ≤ 1 ∧
      ∀ p ∈ e.properties, p.flags.id = true → p.mappedName = "_id" := by
  have hempty : e.validate = .ok () ↔ e.faultList = [] := by
    rw [validate_eq]
    split <;> simp_all
  have hseveral {ids : List Property} :
      (if 1 < ids.length then [EntityFault.severalIds (ids.map (·.name))] else []) = [] ↔
        ids.length ≤ 1 := by
    split <;> simp <;> omega
  rw [hempty, faultList]
  rw [List.append_eq_nil_iff, List.append_eq_nil_iff, clashFree_iff, hseveral, and_assoc,
    List.map_eq_nil_iff, List.filter_eq_nil_iff]
  simp only [List.mem_filter, and_imp, ne_eq, decide_not, Bool.not_eq_true',
    decide_eq_false_iff_not, Decidable.not_not]

/-- Validation is exact. What it records is the list of faults: a clash at a property for each of
its document names, in order, that a property of another name was the first to claim, with the name
of that one; then, at the root, that several properties are the identity; then the identities under
another name than their reserved one. There is nothing else in the tree, whose size is the number of
these faults. So validation succeeds exactly if no document name is shared by properties of
different names, at most one property is the identity, and identities have their reserved name. -/
theorem validate_exact (e : Entity) :
    e.faults.Holds (e.faultList.map EntityFault.entry) ∧
      e.faults.size = e.faultList.length ∧
      e.validate = (if e.faultList = [] then .ok () else .error e.faults) ∧
      (e.validate = .ok () ↔
        (∀ p ∈ e.properties, ∀ q ∈ e.properties, ∀ key ∈ p.mappedName :: p.loadNames,
          key ∈ q.mappedName :: q.loadNames → p.name = q.name) ∧
        (e.properties.filter (·.flags.id)).length ≤ 1 ∧
        ∀ p ∈ e.properties, p.flags.id = true → p.mappedName = "_id") := by
  refine ⟨e.faults_holds, ?_, e.validate_eq, validate_eq_ok_iff⟩
  rw [e.faults_holds.size, List.length_map]

/-- A field that may be read under its own name and, again, under the one to which the field before
it is mapped: only the second of these names clashes. -/
example :
    let alsoLoad (names : List String) : Annotation :=
      .set (.ofType AnnotationNames.alsoLoad) "value" (.array (names.map .text))
    let c : ClassMeta := {
      name := "app.User"
      fields := [{ name := "mail", descriptor := "I" },
        { name := "name", descriptor := "I", annotations := [alsoLoad ["name", "mail"]] }] }
    (discover {} c).toOption.map faultList = some [.clash "name" "mail" "mail"] := by
  decide +kernel

end Entity

end EntityForge

/-!
Whether names tell the properties of an entity apart. A getter is refused if its property is there
already, so two properties share a name exactly if two fields do; document names are checked between
properties of different names only. So an entity that is described is unambiguous if the fields that
it maps have different names, and it is not if they have not.
-/

namespace EntityForge

namespace Entity

/-- Property names and document names stand for one property each, and there is at most one
identity, under its reserved name. -/
structure Unambiguous (e : Entity) : Prop where
  names : (e.properties.map (·.name)).Nodup
  keys : e.properties.Pairwise fun p q =>
    ∀ key ∈ p.mappedName :: p.loadNames, key ∉ q.mappedName :: q.loadNames
  ids : (e.properties.filter (·.flags.id)).length ≤ 1
  idName : ∀ p ∈ e.properties, p.flags.id = true → p.mappedName = "_id"

variable {config : MappingConfig} {c : ClassMeta} {e : Entity}

private theorem addGetters_nodup {methods : List MethodMeta} {known properties : List Property}
    (h : methods.foldlM (addGetter config c) known = .ok properties) :
    (properties.map (·.name)).Nodup ↔ (known.map (·.name)).Nodup := by
  induction methods generalizing known with
  | nil =>
    cases h
    rfl
  | cons m methods ih =>
    rw [List.foldlM_cons] at h
    obtain ⟨next, hnext, h⟩ := Checked.bind_eq_ok.mp h
    obtain ⟨p, _, hnext⟩ := Checked.bind_eq_ok.mp hnext
    rw [ih h]
    split at hnext
    · cases hnext
    · next hnew =>
      cases hnext
      have hp : p.name ∉ known.map (·.name) := by simpa using hnew
      have hlast : ∀ name ∈ known.map (·.name), ∀ last ∈ [p.name], name ≠ last := by
        rintro name hname last hlast rfl
        exact hp (List.mem_singleton.mp hlast ▸ hname)
      rw [List.map_append, List.map_singleton, List.nodup_append]
      exact ⟨And.left, fun hknown => ⟨hknown, List.pairwise_singleton _ _, hlast⟩⟩

private theorem ofField_name {entity : String} {f : FieldMeta} {p : Property}
    (h : Property.ofField config entity f = .ok p) : p.name = f.name := by
  obtain ⟨type, _, heq⟩ := Checked.bind_eq_ok.mp h
  cases heq
  rfl

/-- Getters add no repetition of names to those of the fields. -/
theorem ofClass_names (h : ofClass config c = .ok e) :
    (e.properties.map (·.name)).Nodup ↔
      ((c.fields.filter config.admitsField).map (·.name)).Nodup := by
  obtain ⟨e', hdiscover, h⟩ := Checked.bind_eq_ok.mp h
  obtain ⟨_, _, heq⟩ := Checked.bind_eq_ok.mp h
  cases heq
  obtain ⟨fields, hfields, hdiscover⟩ := Checked.bind_eq_ok.mp hdiscover
  obtain ⟨properties, hproperties, heq⟩ := Checked.bind_eq_ok.mp hdiscover
  cases heq
  have hnames : (c.fields.filter config.admitsField).map (·.name) = fields.map (·.name) := by
    rw [← List.forall₂_eq_eq_eq, List.forall₂_map_left_iff, List.forall₂_map_right_iff]
    exact (Checked.mapM_eq_ok.mp hfields).imp fun _ _ hok => (ofField_name hok).symm
  rw [hnames]
  exact addGetters_nodup hproperties

theorem ofClass_valid (h : ofClass config c = .ok e) : e.validate = .ok () := by
  obtain ⟨e', _, h⟩ := Checked.bind_eq_ok.mp h
  obtain ⟨_, hvalid, heq⟩ := Checked.bind_eq_ok.mp h
  cases heq
  cases hresult : e.validate with
  | ok _ => rfl
  | error faults =>
    rw [hresult] at hvalid
    cases hvalid

/-- A described entity has at most one identity, under its reserved name; it is unambiguous exactly
if no two of the fields that it maps have the same name. -/
theorem described_unambiguous (h : ofClass config c = .ok e) :
    (e.Unambiguous ↔ ((c.fields.filter config.admitsField).map (·.name)).Nodup) ∧
      (e.properties.filter (·.flags.id)).length ≤ 1 ∧
      ∀ p ∈ e.properties, p.flags.id = true → p.mappedName = "_id" := by
  obtain ⟨hclaims, hids, hidName⟩ := validate_eq_ok_iff.mp (ofClass_valid h)
  refine ⟨⟨fun hunambiguous => (ofClass_names h).mp hunambiguous.names, fun hfields => ?_⟩, hids,
    hidName⟩
  have hnames := (ofClass_names h).mpr hfields
  have hkeys : e.properties.Pairwise fun p q =>
      ∀ key ∈ p.mappedName :: p.loadNames, key ∉ q.mappedName :: q.loadNames := by
    refine (List.pairwise_map.mp hnames).imp_of_mem ?_
    intro p q hp hq hne key hkey hkey'
    exact hne (hclaims p hp q hq key hkey hkey')
  exact ⟨hnames, hkeys, hids, hidName⟩

/-- A class with an identity, a field that is also read under another name, and a getter. -/
def account : ClassMeta where
  name := "app.Account"
  fields :=
    [{ name := "key", descriptor := "J", annotations := [.ofType AnnotationNames.id] },
     { name := "mail", descriptor := "Ljava/lang/String;"
       annotations := [.ofType AnnotationNames.property,
         .set (.ofType AnnotationNames.alsoLoad) "value" (.text "email")] }]
  methods :=
    [{ name := "getOwner", descriptor := "()Ljava/lang/String;"
       annotations := [.ofType AnnotationNames.property] }]

theorem described_unambiguous_account :
    ∃ e, ofClass .annotated account = .ok e ∧ e.Unambiguous ∧
      e.properties.map (fun p => (p.name, p.mappedName :: p.loadNames)) =
        [("key", ["_id"]), ("mail", ["mail", "email"]), ("owner", ["owner"])] := by
  have hdescribed : (ofClass .annotated account).toOption.map
      (fun e => e.properties.map fun p => (p.name, p.mappedName :: p.loadNames)) =
        some [("key", ["_id"]), ("mail", ["mail", "email"]), ("owner", ["owner"])] := by
    decide +kernel
  cases he : ofClass .annotated account with
  | error fault =>
    rw [he] at hdescribed
    cases hdescribed
  | ok e =>
    rw [he] at hdescribed
    exact ⟨e, rfl, (described_unambiguous he).1.mpr (by decide +kernel),
      Option.some.inj hdescribed⟩

/-- A class with two fields of one name and different types. -/
def twins : ClassMeta where
  name := "app.Twins"
  fields := [{ name := "a", descriptor := "I" }, { name := "a", descriptor := "J" }]

/-- A class with two fields of one name is described, though its properties are told apart neither
by name nor by document name. -/
theorem twins_ambiguous :
    ∃ e, ofClass {} twins = .ok e ∧
      e.properties.map (fun p => (p.name, p.mappedName :: p.loadNames)) =
        [("a", ["a"]), ("a", ["a"])] ∧
      ¬ e.Unambiguous := by
  have hdescribed : (ofClass {} twins).toOption.map
      (fun e => e.properties.map fun p => (p.name, p.mappedName :: p.loadNames)) =
        some [("a", ["a"]), ("a", ["a"])] := by
    decide +kernel
  cases he : ofClass {} twins with
  | error fault =>
    rw [he] at hdescribed
    cases hdescribed
  | ok e =>
    rw [he] at hdescribed
    have hclaims := Option.some.inj hdescribed
    refine ⟨e, rfl, hclaims, fun hunambiguous => ?_⟩
    have hnames : e.properties.map (·.name) = ["a", "a"] := by
      have hfirst := congrArg (List.map Prod.fst) hclaims
      rwa [List.map_map] at hfirst
    have hnodup := hunambiguous.names
    rw [hnames] at hnodup
    exact absurd hnodup (by decide)

end Entity

end EntityForge
