import EntityForge.Proofs.Generated.Code
import EntityForge.Proofs.Generated.Plan

/-!
The classes that a pass makes around an entity are well-formed, whatever the entity: the descriptors
in them are constants, erased types of properties, or descriptors of methods that the entity
declares. So they load as soon as the class of all objects is left to the outside.
-/

namespace EntityForge

open Code (Straight StraightAt)

/-! Members. -/

namespace MethodDef

theorem answersText_wellFormed (name s : String) : (answersText (.text name) s).WellFormed :=
  ofCode_wellFormed [Code.loadText s] (MethodType.parse_text name)
    (by simp [Code.loadText, StraightAt, Instruction.WellFormed]) _ _

theorem answersBool_wellFormed (name : String) (b : Bool) :
    (answersBool (.bool name) b).WellFormed :=
  ofCode_wellFormed [.pushBool b] (MethodType.parse_bool name)
    (by simp [StraightAt, Instruction.WellFormed]) _ _

theorem answersCode_wellFormed {m : MethodRef} {className : String} {code : Code}
    (hparse : MethodType.parse m.descriptor = .ok (.answering className)) (hcode : Straight code) :
    (answersCode m code).WellFormed := ofCode_wellFormed code hparse hcode _ _

theorem answersField_wellFormed {m : MethodRef} {answered : String}
    (hparse : MethodType.parse m.descriptor = .ok (.answering answered)) (className field : String) :
    (answersField m className field).WellFormed :=
  ofCode_wellFormed [Code.loadThis, .getField className field] hparse
    (by simp [Code.loadThis, StraightAt, Instruction.WellFormed]) _ _

end MethodDef

/-! Property models. -/

namespace Property

variable {p : Property} {entity : String} {replay loadNames type : Code}

theorem modelFields_descriptors : ∀ f ∈ modelFields, IsTypeDescriptor f.descriptor := by
  simp only [modelFields, List.forall_mem_cons]
  exact ⟨⟨_, Signature.parseType_list⟩, ⟨_, Signature.parseType_accessor⟩, nofun⟩

/-- The constructor of a model goes through to its end, and makes the accessor on the way. -/
theorem construction_straight (p : Property) (entity : String) (hreplay : Straight replay) :
    ∃ code, replay ++ p.accessorCode entity = code ++ [.returnVoid] ∧ Straight code ∧
      .new (GeneratedName.accessor entity p.name) Construction.plain ∈ code := by
  refine ⟨replay ++ [Code.loadThis, .new (GeneratedName.accessor entity p.name) Construction.plain,
    .putField (p.modelName entity) PropertyQuery.accessorField], by simp [accessorCode], ?_, by simp⟩
  have hplain : IsMethodDescriptor Construction.plain := ⟨_, MethodType.parse_plain⟩
  simp [hreplay, hplain, Code.loadThis, StraightAt, Instruction.WellFormed]

theorem modelBodyOf_wellFormed (hreplay : Straight replay) (hloadNames : Straight loadNames)
    (htype : Straight type) : (p.modelBodyOf entity replay loadNames type).WellFormed where
  fields := modelFields_descriptors
  methods := by
    have hconstructor : (AccessorShape.constructor Construction.plain
        (replay ++ p.accessorCode entity)).WellFormed := by
      obtain ⟨code, hcode, hstraight, _⟩ := construction_straight p entity hreplay
      rw [hcode]
      exact MethodDef.ofCode_wellFormed _ MethodType.parse_plain hstraight _ _
    simp only [modelBodyOf, textMethods, flagMethods, List.cons_append, List.nil_append,
      List.forall_mem_cons]
    refine ⟨hconstructor, MethodDef.answersText_wellFormed _ _,
      MethodDef.answersText_wellFormed _ _, MethodDef.answersText_wellFormed _ _, ?_⟩
    refine ⟨MethodDef.answersBool_wellFormed _ _, MethodDef.answersBool_wellFormed _ _,
      MethodDef.answersBool_wellFormed _ _, MethodDef.answersBool_wellFormed _ _,
      MethodDef.answersBool_wellFormed _ _, MethodDef.answersBool_wellFormed _ _,
      MethodDef.answersBool_wellFormed _ _, MethodDef.answersBool_wellFormed _ _,
      MethodDef.answersBool_wellFormed _ _, ?_⟩
    exact ⟨MethodDef.answersCode_wellFormed (MethodType.parse_list _) hloadNames,
      MethodDef.answersCode_wellFormed (MethodType.parse_type _) htype,
      MethodDef.answersField_wellFormed MethodType.parse_accessor _ _,
      MethodDef.answersField_wellFormed (MethodType.parse_list _) _ _, nofun⟩

end Property

/-! Entity models. -/

namespace Entity

variable {e : Entity} {replay type : Code}

theorem modelFields_descriptors : ∀ f ∈ modelFields, IsTypeDescriptor f.descriptor := by
  simp only [modelFields, List.forall_mem_cons]
  exact ⟨⟨_, Signature.parseType_config⟩, ⟨_, Signature.parseType_list⟩,
    ⟨_, Signature.parseType_string⟩, ⟨_, Signature.parseType_string⟩,
    ⟨_, Signature.parseType_string⟩, ⟨_, Signature.parseType_list⟩, nofun⟩

private theorem namingCode_straight (className field : String) (set : Option String)
    {operands : Code} (hoperands : Straight operands) (otherwise : Intrinsic) :
    Straight (namingCode className field set operands otherwise) := by
  unfold namingCode
  cases set <;>
    simp [hoperands, Code.loadThis, Code.loadText, StraightAt, Instruction.WellFormed]

/-- The constructor of a model goes through to its end, and makes the models of all properties on
the way. -/
theorem construction_straight (e : Entity) (hreplay : Straight replay) :
    ∃ code, [Code.loadThis, .load 1, .putField e.modelName EntityQuery.configField] ++ replay ++
        e.namesCode ++ e.propertiesCode = code ++ [.returnVoid] ∧ Straight code ∧
      ∀ p ∈ e.properties, .new (p.modelName e.name) Construction.plain ∈ code := by
  have htext : ∀ s, Straight [Code.loadText s] := fun s => by
    simp [Code.loadText, StraightAt, Instruction.WellFormed]
  have hnames : Straight e.namesCode := by
    simp only [namesCode, Code.straight_append]
    exact ⟨⟨namingCode_straight _ _ _ (htext _) _, namingCode_straight _ _ _ (htext _) _⟩,
      namingCode_straight _ _ _ Code.straight_nil _⟩
  have hmade : Straight (e.properties.map fun p =>
      .new (GeneratedName.propertyModel e.name p.name) Construction.plain) := by
    intro i hi
    obtain ⟨p, _, rfl⟩ := List.mem_map.mp hi
    refine ⟨⟨_, MethodType.parse_plain⟩, ?_, ?_⟩
    · intro hreturns
      cases hreturns
    · intro hreturns
      cases hreturns
  refine ⟨[Code.loadThis, .load 1, .putField e.modelName EntityQuery.configField] ++ replay ++
    e.namesCode ++ (Code.loadThis :: e.properties.map (fun p =>
      .new (GeneratedName.propertyModel e.name p.name) Construction.plain) ++
    [.newList (UInt16.ofNat e.properties.length),
     .putField e.modelName EntityQuery.propertiesField]), by simp [propertiesCode], ?_, ?_⟩
  · simp [hreplay, hnames, hmade, Code.loadThis, StraightAt, Instruction.WellFormed]
  · intro p hp
    have hnew : Instruction.new (p.modelName e.name) Construction.plain ∈
        e.properties.map fun p =>
          .new (GeneratedName.propertyModel e.name p.name) Construction.plain :=
      List.mem_map.mpr ⟨p, hp, rfl⟩
    simp only [List.mem_append, List.mem_cons]
    exact .inr (.inl (.inr hnew))

theorem modelBodyOf_wellFormed (hreplay : Straight replay) (htype : Straight type) :
    (e.modelBodyOf replay type).WellFormed where
  fields := modelFields_descriptors
  methods := by
    have hconstructor : (AccessorShape.constructor Construction.fromConfig
        ([Code.loadThis, .load 1, .putField e.modelName EntityQuery.configField] ++ replay ++
          e.namesCode ++ e.propertiesCode)).WellFormed := by
      obtain ⟨code, hcode, hstraight, _⟩ := e.construction_straight hreplay
      rw [hcode]
      exact MethodDef.ofCode_wellFormed _ MethodType.parse_fromConfig hstraight _ _
    simp only [modelBodyOf, fieldMethods, flagMethods, List.cons_append, List.nil_append,
      List.forall_mem_cons]
    refine ⟨hconstructor, MethodDef.answersText_wellFormed _ _,
      MethodDef.answersText_wellFormed _ _,
      MethodDef.answersCode_wellFormed (MethodType.parse_type _) htype, ?_⟩
    refine ⟨MethodDef.answersField_wellFormed (MethodType.parse_text _) _ _,
      MethodDef.answersField_wellFormed (MethodType.parse_text _) _ _,
      MethodDef.answersField_wellFormed (MethodType.parse_text _) _ _,
      MethodDef.answersField_wellFormed (MethodType.parse_list _) _ _,
      MethodDef.answersField_wellFormed (MethodType.parse_list _) _ _,
      MethodDef.answersField_wellFormed MethodType.parse_config _ _, ?_⟩
    exact ⟨MethodDef.answersBool_wellFormed _ _, MethodDef.answersBool_wellFormed _ _,
      MethodDef.answersBool_wellFormed _ _, MethodDef.answersBool_wellFormed _ _,
      List.forall_mem_nil _⟩

end Entity

/-! Accessors. -/

namespace AccessorShape

variable {s : AccessorShape}

/-- A cast to the type of a property names a class, or an array that resolves. -/
theorem castName_target {t : TypeTree} (h : t.Denotable) (hcast : isArrayTarget t.castName = true) :
    IsTypeDescriptor t.castName := by
  unfold TypeTree.castName at hcast ⊢
  cases harray : t.isArray with
  | true =>
    rw [if_pos rfl]
    exact ⟨_, Signature.parseType_erased h⟩
  | false =>
    rw [harray, if_neg Bool.false_ne_true, isArrayTarget, decide_eq_true_eq] at hcast
    exact absurd hcast (h.boxedName_head harray)

private theorem primitive_ne_void {t : TypeTree} {p : Primitive} (h : t.Denotable)
    (hp : t.primitive? = some p) : p ≠ .void := by
  rintro rfl
  unfold TypeTree.primitive? at hp
  split at hp
  · next q hkind =>
    split at hp
    · cases hp
      exact h.primitive hkind
    · cases hp
  · cases hp

theorem boxCode_straight (h : s.property.type.Denotable) : Straight s.boxCode := by
  unfold boxCode
  cases hp : s.property.type.primitive? with
  | none => exact Code.straight_nil
  | some p => simp [StraightAt, Instruction.WellFormed, primitive_ne_void h hp]

theorem checkCode_straight (h : s.property.type.Denotable) : Straight s.checkCode := by
  unfold checkCode
  cases hp : s.property.type.primitive? with
  | none => simpa [StraightAt, Instruction.WellFormed] using castName_target h
  | some p => simp [StraightAt, Instruction.WellFormed, primitive_ne_void h hp]

/-- The name of the entity is that of a class, or that of an array which resolves. -/
def CastsEntity (s : AccessorShape) : Prop := (Instruction.checkCast s.entity).WellFormed

theorem CastsEntity.straight (h : s.CastsEntity) : StraightAt (.checkCast s.entity) :=
  ⟨h, nofun, nofun⟩

theorem callingBody_wellFormed (h : s.property.type.Denotable)
    (hentity : s.CastsEntity) : s.callingBody.WellFormed where
  fields := nofun
  methods := by
    have hreads : IsMethodDescriptor ("()" ++ s.property.type.erasedDescriptor) :=
      ⟨_, MethodType.parse_answering h⟩
    have hwrites : IsMethodDescriptor ("(" ++ s.property.type.erasedDescriptor ++ ")V") :=
      ⟨_, MethodType.parse_taking h⟩
    simp only [callingBody, List.forall_mem_cons]
    refine ⟨?_, ?_, ?_, nofun⟩
    · exact MethodDef.ofCode_wellFormed [] MethodType.parse_plain Code.straight_nil _ _
    · refine MethodDef.ofCode_wellFormed _ MethodType.parse_get ?_ _ _
      simp only [Code.straight_append, Code.straight_cons, Code.straight_nil, boxCode_straight h,
        hentity.straight, true_and, and_true]
      simp [StraightAt, Instruction.WellFormed, hreads]
    · have hcode : s.callWriter = ([.load 1, .checkCast s.entity, .load 2] ++ s.checkCode ++
          [.invoke s.entity (GeneratedName.writer s.property.name)
            ("(" ++ s.property.type.erasedDescriptor ++ ")V")]) ++ [.returnVoid] := by
        simp [callWriter]
      rw [hcode]
      refine MethodDef.ofCode_wellFormed _ MethodType.parse_set ?_ _ _
      simp only [Code.straight_append, Code.straight_cons, Code.straight_nil, checkCode_straight h,
        hentity.straight, true_and, and_true]
      simp [StraightAt, Instruction.WellFormed, hwrites]

theorem handleFields_descriptors : ∀ f ∈ s.handleFields, IsTypeDescriptor f.descriptor := by
  intro f hf
  unfold handleFields at hf
  split at hf <;> simp only [List.mem_cons, List.not_mem_nil, or_false] at hf
  · exact hf ▸ ⟨_, Signature.parseType_handle⟩
  · rcases hf with rfl | rfl <;> exact ⟨_, Signature.parseType_handle⟩

/-- The methods that a property is read and written through have descriptors that resolve. -/
def MembersResolve (s : AccessorShape) : Prop :=
  ∀ getter setter, s.property.access = .method getter setter →
    IsMethodDescriptor getter.descriptor ∧ ∀ m ∈ setter, IsMethodDescriptor m.descriptor

theorem resolvingBody_wellFormed (h : s.property.type.Denotable)
    (hentity : s.CastsEntity) (hmembers : s.MembersResolve) :
    s.resolvingBody.WellFormed where
  fields := handleFields_descriptors
  methods := by
    simp only [resolvingBody, List.forall_mem_cons]
    refine ⟨?_, ?_, ?_, nofun⟩
    · refine MethodDef.ofCode_wellFormed _ MethodType.parse_plain ?_ _ _
      unfold bindCode
      cases haccess : s.property.access with
      | field => simp [Code.loadThis, StraightAt, Instruction.WellFormed]
      | method getter setter =>
        obtain ⟨hgetter, hsetter⟩ := hmembers getter setter haccess
        cases setter with
        | none => simp [Code.loadThis, StraightAt, Instruction.WellFormed, hgetter]
        | some m =>
          simp [Code.loadThis, StraightAt, Instruction.WellFormed, hgetter, hsetter m rfl]
    · refine MethodDef.ofCode_wellFormed _ MethodType.parse_get ?_ _ _
      simp only [Code.straight_append, Code.straight_cons, Code.straight_nil, boxCode_straight h,
        hentity.straight, true_and, and_true]
      simp [Code.loadThis, StraightAt, Instruction.WellFormed]
    · have hwrites : ∀ handle check, Straight check →
          (member AccessorMember.set ([Code.loadThis, .getField s.className handle, .load 1,
            .checkCast s.entity, .load 2] ++ check ++
              [.handleSet s.entity s.property.name, .returnVoid])).WellFormed := by
        intro handle check hcheck
        have hcode : [Code.loadThis, .getField s.className handle, .load 1, .checkCast s.entity,
            .load 2] ++ check ++ [.handleSet s.entity s.property.name, .returnVoid] =
            ([Code.loadThis, .getField s.className handle, .load 1, .checkCast s.entity,
              .load 2] ++ check ++ [.handleSet s.entity s.property.name]) ++ [.returnVoid] := by
          simp
        rw [hcode]
        refine MethodDef.ofCode_wellFormed _ MethodType.parse_set ?_ _ _
        simp only [Code.straight_append, Code.straight_cons, Code.straight_nil, hcheck,
          hentity.straight, true_and, and_true]
        simp [Code.loadThis, StraightAt, Instruction.WellFormed]
      unfold writeHandle
      cases s.property.access with
      | field => exact hwrites _ _ (checkCode_straight h)
      | method getter setter =>
        cases setter with
        | none => exact hwrites _ _ Code.straight_nil
        | some m => exact hwrites _ _ (checkCode_straight h)

end AccessorShape

namespace Backend

variable (backend : Backend) {s : AccessorShape}

theorem accessorBody_wellFormed (h : s.property.type.Denotable)
    (hentity : s.CastsEntity) (hmembers : s.MembersResolve) :
    (backend.accessorBody s).WellFormed := by
  unfold accessorBody
  split
  · exact AccessorShape.callingBody_wellFormed h hentity
  · exact AccessorShape.resolvingBody_wellFormed h hentity hmembers

theorem accessorBody_superName : (backend.accessorBody s).superName = some ClassName.object := by
  unfold accessorBody
  split <;> rfl

theorem accessorBody_initial : ∀ f ∈ (backend.accessorBody s).fields, f.initial = none := by
  unfold accessorBody
  split
  · exact nofun
  · intro f hf
    change f ∈ s.handleFields at hf
    unfold AccessorShape.handleFields at hf
    split at hf <;> simp only [List.mem_cons, List.not_mem_nil, or_false] at hf
    · exact hf ▸ rfl
    · rcases hf with rfl | rfl <;> rfl

end Backend

/-! Loading. -/

namespace ClassRegistry

/-- Fields that have a value to start with get their slots. -/
theorem ownSlots_of_starts {b : ClassBody}
    (h : ∀ f ∈ LoadedClass.instanceFields b, ∃ type v,
      Signature.parseType f.descriptor = .ok type ∧ StartsWith f.initial type v) :
    ∃ own, ownSlots b = .ok own := by
  refine Checked.mapM_ok ?_
  intro f hf
  obtain ⟨type, v, htype, hstarts⟩ := h f hf
  unfold LoadedClass.slotOf
  rw [htype]
  cases hinitial : f.initial with
  | none => exact ⟨_, rfl⟩
  | some k =>
    rw [hinitial] at hstarts
    have hvalue : Value.ofInitializer k type = .ok v := hstarts
    refine ⟨_, Checked.bind_eq_ok.mpr ⟨type, rfl, Checked.bind_eq_ok.mpr ⟨v, hvalue, rfl⟩⟩⟩

/-- Fields without initializers get their slots. -/
theorem ownSlots_ok {b : ClassBody} (hfields : ∀ f ∈ b.fields, IsTypeDescriptor f.descriptor)
    (hinitial : ∀ f ∈ b.fields, f.initial = none) : ∃ own, ownSlots b = .ok own := by
  apply ownSlots_of_starts
  intro f hf
  have hmem := (List.mem_filter.mp hf).1
  obtain ⟨type, htype⟩ := hfields f hmem
  exact ⟨type, Value.zero type, htype, by rw [hinitial f hmem]; exact rfl⟩

section Linking

variable {r : ClassRegistry} {b : ClassBody} {own : List FieldSlot} {name superName : String}

private theorem link_of_ownSlots (hown : ownSlots b = .ok own) (parent : Option LoadedClass) :
    LoadedClass.link b parent = .ok ⟨b, parent, parent.elim [] (·.slots) ++ own⟩ := by
  unfold LoadedClass.link
  rw [show (LoadedClass.instanceFields b).mapM (LoadedClass.slotOf b.name) = .ok own from hown]
  cases parent <;> rfl

/-- A stored class without a registered superclass is loaded with its own slots. -/
theorem Stores.links_alone (hstored : Stores r.records b) (hwell : b.WellFormed)
    (hown : ownSlots b = .ok own) (hroot : b.superName.filter r.records.contains = none)
    (hnew : r.loaded.get? b.name = none) : r.Links b.name ⟨b, none, own⟩ :=
  ⟨0, .root hnew (hstored.definition hwell) hroot (link_of_ownSlots hown none)⟩

/-- A stored class is loaded with its own slots behind those of its superclass. -/
theorem Stores.links_behind {parent : LoadedClass} (hstored : Stores r.records b)
    (hwell : b.WellFormed) (hown : ownSlots b = .ok own)
    (hsuper : b.superName.filter r.records.contains = some superName)
    (hparent : r.Links superName parent) (hnew : r.loaded.get? b.name = none) :
    r.Links b.name ⟨b, some parent, parent.slots ++ own⟩ := by
  obtain ⟨height, hparent⟩ := hparent
  exact ⟨height + 1, .child hnew (hstored.definition hwell) hsuper hparent
    (link_of_ownSlots hown (some parent))⟩

/-- A class that is defined links if its superclass does, or if that is not registered. -/
theorem links_over (hbody : definition r.records name = .ok b)
    (hown : ∃ own, ownSlots b = .ok own)
    (hsuper : ∀ s, b.superName.filter r.records.contains = some s → ∃ parent, r.Links s parent) :
    ∃ c, r.Links name c := by
  obtain ⟨own, hown⟩ := hown
  cases hcached : r.loaded.get? name with
  | some c => exact ⟨c, 0, .cached hcached⟩
  | none =>
    cases hparent : b.superName.filter r.records.contains with
    | none => exact ⟨_, 0, .root hcached hbody hparent (link_of_ownSlots hown none)⟩
    | some s =>
      obtain ⟨parent, height, hderives⟩ := hsuper s hparent
      exact ⟨_, height + 1, .child hcached hbody hparent hderives
        (link_of_ownSlots hown (some parent))⟩

end Linking

end ClassRegistry

end EntityForge
