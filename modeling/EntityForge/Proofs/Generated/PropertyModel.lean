import EntityForge.Model.Snapshot
import EntityForge.Proofs.Generated.Plan
import EntityForge.Proofs.Generated.Replay

/-!
Models of properties. The constructor of a property model leaves the replayed annotations and a new
accessor in the fields of the model; from then on each query answers what the description of the
property says, whatever else is made.
-/

namespace EntityForge

open Run

def PropertyQuery.all : List MethodRef :=
  [name, fullName, mappedName, loadNames, typeData, isArray, isMap, isSet, isCollection, isFinal,
   isTransient, isReference, isId, isVersion, accessor, annotations]

/-- An object that implements the interface of accessors. -/
def Machine.Accesses (m : Machine) (id : Nat) : Prop :=
  id < m.heap.size ∧ m.isInstance id ClassName.accessor = true

namespace Property

variable {p : Property} {entity : String} {annotations : List Annotation} {m m' : Machine} {id : Nat}

/-- An object of the model class of a property, with its annotations and an accessor. -/
structure ModelledBy (p : Property) (entity : String) (annotations : List Annotation) (m : Machine)
    (id : Nat) : Prop where
  bound : id < m.heap.size
  body : ∃ replay loadNames type, Code.Pushes loadNames [.list (p.loadNames.map .text)] ∧
    Code.Pushes type [.type p.type] ∧
      (m.classOf id).body = p.modelBodyOf entity replay loadNames type
  annotations : m.field? id annotationsField = some (.list (annotations.map .annotationUse))
  accessor : ∃ accessor, m.field? id PropertyQuery.accessorField = some (.object accessor) ∧
    id < accessor ∧ m.Accesses accessor

/-- A model stays a model of its property when more objects are made. -/
theorem ModelledBy.grows (h : p.ModelledBy entity annotations m id) (hgrows : m.Grows m') :
    p.ModelledBy entity annotations m' id where
  bound := Nat.lt_of_lt_of_le h.bound hgrows.size
  body := by
    rw [hgrows.classOf h.bound]
    exact h.body
  annotations := (hgrows.field? h.bound _).trans h.annotations
  accessor := by
    obtain ⟨accessor, hfield, hafter, hbound, hinstance⟩ := h.accessor
    refine ⟨accessor, (hgrows.field? h.bound _).trans hfield, hafter, ?_, ?_⟩
    · exact Nat.lt_of_lt_of_le hbound hgrows.size
    · exact (hgrows.isInstance hbound _).trans hinstance

/-- A model stays a model of its property when an earlier object is changed. -/
theorem ModelledBy.sets {c : LoadedClass} {self : Nat} {name : String} {v : Value}
    (h : p.ModelledBy entity annotations m id) (hstands : m.Stands self c) (hself : self < id)
    (hsets : Machine.Sets self name v m m') : p.ModelledBy entity annotations m' id := by
  have hobject := hsets.object id (Nat.ne_of_gt hself)
  have hclass : m'.classOf id = m.classOf id := congrArg Instance.type hobject
  have hfield (name : String) : m'.field? id name = m.field? id name := by
    rw [Machine.field?, hclass, hobject, Machine.field?]
  obtain ⟨hbound, hbody, hannotations, accessor, haccessor, hafter, haccesses⟩ := h
  refine ⟨hsets.size ▸ hbound, hclass ▸ hbody, (hfield _).trans hannotations, accessor,
    (hfield _).trans haccessor, hafter, hsets.size ▸ haccesses.1, ?_⟩
  exact (hsets.isInstance hstands _ _).trans haccesses.2

/-! Making a model. -/

section Making

variable {c : LoadedClass} {replay loadNames type : Code}

private theorem modelFields_found (h : c.Fronts (p.modelBodyOf entity replay loadNames type)) :
    c.HasField annotationsField annotationsType ∧
      c.HasField PropertyQuery.accessorField (.ofClass ClassName.accessor) := by
  have hfields : LoadedClass.instanceFields (p.modelBodyOf entity replay loadNames type) =
      modelFields := rfl
  have hnames : (modelFields.map (·.name)).Nodup := by decide
  have hfound {f : FieldDef} (hf : f ∈ modelFields) {t : TypeTree}
      (hparse : Signature.parseType f.descriptor = .ok t) : c.HasField f.name t :=
    h.hasField (hfields ▸ hnames) (hfields ▸ hf) hparse
  exact ⟨hfound List.mem_cons_self Signature.parseType_list,
    hfound (List.mem_cons_of_mem _ List.mem_cons_self) Signature.parseType_accessor⟩

/-- The model of a property is made with the completed annotations and a new accessor. -/
theorem make_model {r : ClassRegistry} {levels : Nat} {known : List Annotation}
    (hlinks : r.Links (p.modelName entity) c)
    (hfronts : c.Fronts (p.modelBodyOf entity replay loadNames type))
    (hreplay : Replay.code entity (p.modelName entity) known = .ok replay)
    (hcompleted : known.mapM r.annotations.complete = .ok annotations)
    (hloadNames : Code.Pushes loadNames [.list (p.loadNames.map .text)])
    (htype : Code.Pushes type [.type p.type])
    (haccessor : Makes r levels (GeneratedName.accessor entity p.name) Machine.Accesses) :
    Makes r (levels + 1) (p.modelName entity) (p.ModelledBy entity annotations) := by
  intro m hm
  obtain ⟨hannotationsField, haccessorField⟩ := modelFields_found hfronts
  have hname : c.name = p.modelName entity := hfronts.name
  obtain ⟨r', hlater, _, hmake, _⟩ := constructWith_on (execute (levels + 1)) Construction.plain []
    (hm.links_iff.mpr hlinks)
  let method := AccessorShape.constructor Construction.plain (replay ++ p.accessorCode entity)
  let f : Frame := .enter method m.heap.size []
  have hself : f.locals[0]? = some (.object m.heap.size) := Frame.enter_self _ _ _
  have hstands := m.stands_allocated r' c
  have hlater₁ : r.Later (m.allocated r' c).registry := hm.trans hlater
  -- The annotations first, then the accessor, both on the machine with the new object.
  obtain ⟨m₁, hreplayed, hsets₁⟩ := Replay.code_moves (execute levels) ⟨[], none⟩
    hreplay hcompleted hstands hname hannotationsField hself
    hlater₁.annotations
  have hstands₁ := hsets₁.stands c hstands
  obtain ⟨m₂, hnew, hgrows₂, haccesses⟩ := haccessor.step (hlater₁.trans hsets₁.later) ⟨[], none⟩
    (f.push (.object m.heap.size))
  have hstands₂ := hstands₁.grows hgrows₂
  obtain ⟨m₃, hput, hsets₃⟩ := step_putField_sets (execute levels) ⟨[], none⟩ f hstands₂
    haccessorField (Machine.fits_accessor haccesses.2)
  rw [hname] at hput
  have hstands₃ := hsets₃.stands c hstands₂
  have hrun : (execute (levels + 1) m.heap.size method []).on (m.allocated r' c) =
      (.ok .null, m₃) := by
    refine execute_on MethodType.parse_plain .nil (hreplayed.ends ?_)
    exact .cons (step_load hself) (.cons hnew (.cons hput (.finish step_returnVoid)))
  have hconstructor : c.declaredMethod? Construction.name Construction.plain = some method := by
    rw [LoadedClass.declaredMethod?, hfronts.body]
    rfl
  refine ⟨m₃, hmake method _ _ hconstructor hrun, ?_, hstands₃.bound, ?_, ?_, ?_⟩
  · have hgrows₁ := (Machine.allocated_grows hlater c).sets (Nat.le_refl _) hsets₁
    exact (hgrows₁.trans hgrows₂).sets (Nat.le_refl _) hsets₃
  · rw [hstands₃.type, hfronts.body]
    exact ⟨replay, loadNames, type, hloadNames, htype, rfl⟩
  · rw [hsets₃.others _ (by decide), hgrows₂.field? hstands₁.bound, hsets₁.field]
  · refine ⟨_, hsets₃.field, ?_, ?_, ?_⟩
    · exact hstands₁.bound
    · exact hsets₃.size ▸ haccesses.1
    · exact (hsets₃.isInstance hstands₂ _ _).trans haccesses.2

end Making

/-! What a model answers. -/

def answers (p : Property) (entity : String) (annotations : List Annotation) (accessor : Nat) :
    List (MethodRef × Value) :=
  [(PropertyQuery.name, .text p.name), (PropertyQuery.fullName, .text (p.fullName entity)),
   (PropertyQuery.mappedName, .text p.mappedName),
   (PropertyQuery.loadNames, .list (p.loadNames.map .text)), (PropertyQuery.typeData, .type p.type),
   (PropertyQuery.isArray, .bool p.flags.array), (PropertyQuery.isMap, .bool p.flags.map),
   (PropertyQuery.isSet, .bool p.flags.set), (PropertyQuery.isCollection, .bool p.flags.collection),
   (PropertyQuery.isFinal, .bool p.flags.constant),
   (PropertyQuery.isTransient, .bool p.flags.transient),
   (PropertyQuery.isReference, .bool p.flags.reference), (PropertyQuery.isId, .bool p.flags.id),
   (PropertyQuery.isVersion, .bool p.flags.version),
   (PropertyQuery.accessor, .object accessor),
   (PropertyQuery.annotations, .list (annotations.map .annotationUse))]

theorem answers_queries (accessor : Nat) :
    (p.answers entity annotations accessor).map (·.1) = PropertyQuery.all := rfl

/-- A model answers every query as its property is described. -/
theorem ModelledBy.answers (h : p.ModelledBy entity annotations m id) :
    ∃ accessor, m.Accesses accessor ∧ ∀ answer ∈ p.answers entity annotations accessor,
      (Run.ask id answer.1).on m = (.ok answer.2, m) := by
  obtain ⟨_, ⟨replay, loadNames, type, hloadNames, htype, hbody⟩, hannotations, accessor,
    haccessor, _, haccesses⟩ := h
  have hfinds {query : MethodRef} {method : MethodDef}
      (hmethod : (p.modelBodyOf entity replay loadNames type).method? query.name query.descriptor =
        some method) :
      (m.classOf id).body.method? query.name query.descriptor = some method := hbody ▸ hmethod
  have hinstance : m.isInstance id (p.modelName entity) = true := by
    have hself := (m.classOf id).isSubclassOf_self
    rwa [hbody] at hself
  refine ⟨accessor, haccesses, ?_⟩
  simp only [Property.answers, List.forall_mem_cons]
  refine ⟨ask_text (hfinds rfl), ask_text (hfinds rfl), ask_text (hfinds rfl),
    ask_code _ (hfinds rfl) (MethodType.parse_list _) hloadNames (m.fits_items _),
    ask_code _ (hfinds rfl) (MethodType.parse_type _) htype (m.fits_type _), ?_⟩
  refine ⟨ask_bool (hfinds rfl), ask_bool (hfinds rfl), ask_bool (hfinds rfl),
    ask_bool (hfinds rfl), ask_bool (hfinds rfl), ask_bool (hfinds rfl), ask_bool (hfinds rfl),
    ask_bool (hfinds rfl), ask_bool (hfinds rfl), ?_⟩
  exact ⟨ask_field (hfinds rfl) MethodType.parse_accessor hinstance haccessor
      (Machine.fits_accessor haccesses.2),
    ask_field (hfinds rfl) (MethodType.parse_list _) hinstance hannotations (m.fits_items _), nofun⟩

private theorem flag_on {query : MethodRef} {b : Bool} (ofFlags : PropertyFlags → Bool)
    (h : (Run.ask id query).on m = (.ok (.bool b), m)) :
    (PropertyModel.flag query ofFlags (.generated id)).on m = (.ok b, m) :=
  on_bind_ok h

/-- Whether the property is the identity. -/
theorem ModelledBy.isId_on (h : p.ModelledBy entity annotations m id) :
    (PropertyModel.generated id).isId.on m = (.ok p.flags.id, m) := by
  obtain ⟨_, _, hanswers⟩ := h.answers
  exact flag_on _ (hanswers (PropertyQuery.isId, .bool p.flags.id) (by simp [Property.answers]))

/-- Whether the property holds more than one value. -/
theorem ModelledBy.isMultiple_on (h : p.ModelledBy entity annotations m id) :
    (PropertyModel.generated id).isMultiple.on m =
      (.ok (p.flags.array || p.flags.map || p.flags.collection), m) := by
  obtain ⟨_, _, hanswers⟩ := h.answers
  simp only [Property.answers, List.forall_mem_cons] at hanswers
  obtain ⟨_, _, _, _, _, harray, hmap, _, hcollection, _⟩ := hanswers
  unfold PropertyModel.isMultiple PropertyModel.isArray PropertyModel.isMap
    PropertyModel.isCollection
  rw [on_bind_ok (flag_on (·.array) harray)]
  cases p.flags.array with
  | true => rfl
  | false =>
    rw [if_neg Bool.false_ne_true, on_bind_ok (flag_on (·.map) hmap)]
    cases p.flags.map with
    | true => rfl
    | false => exact flag_on (·.collection) hcollection

def snapshot (p : Property) (entity : String) (annotations : List Annotation) : PropertySnapshot :=
  { name := p.name, fullName := p.fullName entity, mappedName := p.mappedName
    loadNames := p.loadNames, type := p.type, flags := p.flags, annotations }

theorem described_snapshot (p : Property) (entity : String) (annotations : List Annotation)
    (m : Machine) :
    (PropertyModel.described entity p annotations).snapshot.on m =
      (.ok (p.snapshot entity annotations), m) := rfl

/-- The generated model of a property answers all that its description does. -/
theorem ModelledBy.snapshot_on (h : p.ModelledBy entity annotations m id) :
    (PropertyModel.generated id).snapshot.on m = (.ok (p.snapshot entity annotations), m) := by
  obtain ⟨_, _, hanswers⟩ := h.answers
  simp only [Property.answers, List.forall_mem_cons] at hanswers
  obtain ⟨hname, hfullName, hmappedName, hloadNames, htype, harray, hmap, hset, hcollection,
    hconstant, htransient, hreference, hid, hversion, _, hannotations, _⟩ := hanswers
  have htext {query : MethodRef} {s : String} (ofProperty : String → Property → String)
      (ofRow : PropertyRow → String) (hasked : (Run.ask id query).on m = (.ok (.text s), m)) :
      (PropertyModel.text query ofProperty ofRow (.generated id)).on m = (.ok s, m) :=
    on_bind_ok hasked
  have hflags : (PropertyModel.generated id).flags.on m = (.ok p.flags, m) := by
    unfold PropertyModel.flags PropertyModel.isTransient PropertyModel.isFinal
      PropertyModel.isReference PropertyModel.isArray PropertyModel.isMap PropertyModel.isSet
      PropertyModel.isCollection PropertyModel.isId PropertyModel.isVersion
    rw [on_bind_ok (flag_on _ htransient), on_bind_ok (flag_on _ hconstant),
      on_bind_ok (flag_on _ hreference), on_bind_ok (flag_on _ harray), on_bind_ok (flag_on _ hmap),
      on_bind_ok (flag_on _ hset), on_bind_ok (flag_on _ hcollection), on_bind_ok (flag_on _ hid),
      on_bind_ok (flag_on _ hversion)]
    rfl
  have hnames : (PropertyModel.generated id).loadNames.on m = (.ok p.loadNames, m) := by
    have htexts : (Value.list (p.loadNames.map .text)).toTexts = .ok p.loadNames :=
      Checked.mapM_map_ok Value.toText .text (fun _ => rfl) p.loadNames
    refine (on_bind_ok hloadNames).trans ?_
    rw [htexts]
    rfl
  have hreplayed : (PropertyModel.generated id).annotations.on m = (.ok annotations, m) := by
    refine (on_bind_ok hannotations).trans ?_
    rw [annotationsOf_uses]
    rfl
  have htypeData : (PropertyModel.generated id).type.on m = (.ok p.type, m) := on_bind_ok htype
  unfold PropertyModel.snapshot PropertyModel.name PropertyModel.fullName PropertyModel.mappedName
  rw [on_bind_ok (htext _ _ hname), on_bind_ok (htext _ _ hfullName),
    on_bind_ok (htext _ _ hmappedName), on_bind_ok hnames, on_bind_ok htypeData,
    on_bind_ok hflags, on_bind_ok hreplayed]
  rfl

/-- The accessor of a generated model. -/
theorem ModelledBy.accessor_on (h : p.ModelledBy entity annotations m id) :
    ∃ accessor, (PropertyModel.generated id).accessor.on m = (.ok (.generated accessor), m) ∧
      m.Accesses accessor := by
  obtain ⟨accessor, haccesses, hanswers⟩ := h.answers
  have hasked : (Run.ask id PropertyQuery.accessor).on m = (.ok (.object accessor), m) :=
    hanswers (PropertyQuery.accessor, .object accessor) (by simp [Property.answers])
  refine ⟨accessor, ?_, haccesses⟩
  have hclass : (Run.classOf accessor).on m = (.ok (m.classOf accessor), m) := rfl
  have hsubclass : (m.classOf accessor).isSubclassOf ClassName.accessor = true := haccesses.2
  have hobject : (Accessor.ofObject accessor).on m = (.ok (.generated accessor), m) := by
    rw [Accessor.ofObject, on_bind_ok hclass, if_pos hsubclass]
    rfl
  exact (on_bind_ok hasked).trans hobject

end Property

end EntityForge
