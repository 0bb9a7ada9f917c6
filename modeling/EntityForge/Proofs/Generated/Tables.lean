import EntityForge.Proofs.Generated.Instantiation
import EntityForge.Proofs.Generated.Reports
import EntityForge.Proofs.Source.LiteralText
import EntityForge.Proofs.Source.TableReading

/-!
Tables and generated models. A table has the types of an entity as signatures and its annotations as
completed ones in JSON, and both are read back to what was described. So wherever the model of a
generated entity was made, it and the table of the entity answer the same, and each row names the
class of the accessor that was registered for its property.
-/

namespace EntityForge

open Run

/-- Completed annotations as a table has them. -/
def Annotations.tableText (completed : List Annotation) : String :=
  (Json.array (completed.map (·.toJson Json.ofDouble))).render

/-- The annotations of an entity and of its properties are read back from a table, once they are
completed. -/
def Entity.ReadsBack (e : Entity) (registry : AnnotationRegistry) : Prop :=
  ∀ annotations ∈ e.annotations :: e.properties.map (·.annotations), ∀ completed,
    registry.replayed annotations = .ok completed →
      readTableAnnotations (Annotations.tableText completed) = .ok completed

/-- What stands for annotations in a table is what a model replays. -/
theorem AnnotationRegistry.tableText_ok {registry : AnnotationRegistry}
    {annotations : List Annotation} {text : String} (h : registry.tableText annotations = .ok text) :
    ∃ completed, registry.replayed annotations = .ok completed ∧
      text = Annotations.tableText completed := by
  obtain ⟨known, hknown, h⟩ := Checked.bind_eq_ok.mp h
  obtain ⟨completed, hcompleted, heq⟩ := Checked.bind_eq_ok.mp h
  cases heq
  obtain ⟨_, hcompleted', hreplayed⟩ := AnnotationRegistry.replayable_ok hknown
  cases hcompleted.symm.trans hcompleted'
  exact ⟨completed, hreplayed, rfl⟩

/-- The row of a property answers what the description of the property does. -/
theorem PropertyRow.snapshot_on {registry : AnnotationRegistry} {entity : String} {p : Property}
    {row : PropertyRow} {annotations : List Annotation}
    (h : PropertyRow.ofProperty registry entity p = .ok row) (htype : p.type.WellFormed)
    (hreplayed : registry.replayed p.annotations = .ok annotations)
    (hread : readTableAnnotations (Annotations.tableText annotations) = .ok annotations)
    (m : Machine) :
    (PropertyModel.row row).snapshot.on m = (.ok (p.snapshot entity annotations), m) := by
  obtain ⟨text, htext, heq⟩ := Checked.bind_eq_ok.mp h
  cases heq
  obtain ⟨completed, hcompleted, rfl⟩ := AnnotationRegistry.tableText_ok htext
  cases hcompleted.symm.trans hreplayed
  unfold PropertyModel.snapshot PropertyModel.type PropertyModel.annotations PropertyRow.type
    PropertyRow.annotations
  simp only [Signature.parseType_signature htype, hread]
  rfl

/-- The table of an entity answers what the description of the entity does. -/
theorem EntityTable.snapshot_on {registry : AnnotationRegistry} {config : MappingConfig}
    {e : Entity} {table : EntityTable} {annotations : List Annotation}
    {described : List (Property × List Annotation)}
    (h : EntityTable.ofEntity registry config e = .ok table)
    (htypes : ∀ p ∈ e.properties, p.type.WellFormed)
    (hannotations : registry.replayed e.annotations = .ok annotations)
    (hproperties : e.properties = described.map (·.1))
    (hdescribed : ∀ entry ∈ described, registry.replayed entry.1.annotations = .ok entry.2)
    (hread : e.ReadsBack registry) (m : Machine) :
    (EntityModel.table table).snapshot.on m = (.ok (e.snapshot config annotations
      (described.map fun entry => entry.1.snapshot e.name entry.2)), m) := by
  obtain ⟨rows, hrows, h⟩ := Checked.bind_eq_ok.mp h
  obtain ⟨text, htext, heq⟩ := Checked.bind_eq_ok.mp h
  cases heq
  obtain ⟨completed, hcompleted, rfl⟩ := AnnotationRegistry.tableText_ok htext
  cases hcompleted.symm.trans hannotations
  have hentries : ∀ entry ∈ described, entry.1.type.WellFormed ∧
      registry.replayed entry.1.annotations = .ok entry.2 ∧
      readTableAnnotations (Annotations.tableText entry.2) = .ok entry.2 := by
    intro entry hentry
    have hp : entry.1 ∈ e.properties := hproperties ▸ List.mem_map_of_mem hentry
    have hreplayed := hdescribed entry hentry
    exact ⟨htypes _ hp, hreplayed,
      hread _ (List.mem_cons_of_mem _ (List.mem_map_of_mem hp)) _ hreplayed⟩
  have hrows := Checked.mapM_eq_ok.mp hrows
  rw [hproperties, List.forall₂_map_left_iff] at hrows
  have hsnapshots : Run.on ((rows.map PropertyModel.row).mapM PropertyModel.snapshot) m =
      (.ok (described.map fun entry => entry.1.snapshot e.name entry.2), m) := by
    refine mapM_on ?_
    rw [List.forall₂_map_left_iff, List.forall₂_map_right_iff]
    refine ((List.forall₂_and_left _ _).mpr ⟨hentries, hrows⟩).flip.imp ?_
    rintro row entry ⟨⟨htype, hreplayed, hentry⟩, hrow⟩
    exact PropertyRow.snapshot_on hrow htype hreplayed hentry m
  refine (on_bind_ok hsnapshots).trans ?_
  unfold EntityModel.annotations EntityTable.annotations
  simp only [hread _ List.mem_cons_self _ hannotations]
  rfl

/-- The rows of a table stand for the properties, in their order. -/
theorem EntityTable.ofEntity_rows {registry : AnnotationRegistry} {config : MappingConfig}
    {e : Entity} {table : EntityTable} (h : EntityTable.ofEntity registry config e = .ok table) :
    List.Forall₂ (fun row p => p ∈ e.properties ∧ row.name = p.name ∧
      row.accessorClass = GeneratedName.accessor e.name p.name) table.properties e.properties := by
  obtain ⟨rows, hrows, h⟩ := Checked.bind_eq_ok.mp h
  obtain ⟨_, _, heq⟩ := Checked.bind_eq_ok.mp h
  cases heq
  have hrows := (List.forall₂_and_left _ _).mpr ⟨fun _ hp => hp, Checked.mapM_eq_ok.mp hrows⟩
  refine hrows.flip.imp fun row p ⟨hp, hrow⟩ => ⟨hp, ?_⟩
  obtain ⟨_, _, heq⟩ := Checked.bind_eq_ok.mp hrow
  cases heq
  exact ⟨rfl, rfl⟩

/-- The module of an entity is made of the tokens of its table. -/
theorem EntitySource.ofEntity_ok {registry : AnnotationRegistry} {config : MappingConfig}
    {path : String} {e : Entity} {source : EntitySource}
    (h : EntitySource.ofEntity registry config path e = .ok source) :
    ∃ modulePath table, ModulePath.read? path = some modulePath ∧
      EntityTable.ofEntity registry config e = .ok table ∧
      source.code = Token.render (table.tokens modulePath) := by
  unfold EntitySource.ofEntity at h
  split at h
  · cases h
  · next modulePath hpath =>
    obtain ⟨table, htable, h⟩ := Checked.bind_eq_ok.mp h
    refine ⟨modulePath, table, hpath, Checked.mapError_eq_ok.mp htable, ?_⟩
    dsimp only at h
    split at h
    · cases h
    · have hsource := Except.ok.inj h
      rw [← hsource]

/-! Reading back, decided: where no double is around, values that count as equal are the same. -/

namespace ElementValue

mutual

/-- Whether a value has no double in it, for which being equal is not being the same. -/
def exact : ElementValue → Bool
  | double _ => false
  | array items => exactItems items
  | nested _ entries => exactEntries entries
  | _ => true

def exactItems : List ElementValue → Bool
  | [] => true
  | v :: rest => exact v && exactItems rest

def exactEntries : List (String × ElementValue) → Bool
  | [] => true
  | (_, v) :: rest => exact v && exactEntries rest

end

mutual

/-- Doubles aside, values that count as equal are the same. -/
theorem eq_of_same {a b : ElementValue} (hexact : a.exact = true) (h : same a b = true) :
    a = b := by
  cases a with
  | array items =>
    cases b with
    | array items' => exact congrArg array (items_eq_of_same hexact h)
    | _ => cases h
  | nested typeName entries =>
    cases b with
    | nested typeName' entries' =>
      obtain ⟨rfl, hentries⟩ : typeName = typeName' ∧ sameEntries entries entries' = true := by
        simpa [same] using h
      exact congrArg (nested typeName) (entries_eq_of_same hexact hentries)
    | _ => cases h
  | double v => cases hexact
  | _ => cases b <;> simp_all [same]

theorem items_eq_of_same {items items' : List ElementValue} (hexact : exactItems items = true)
    (h : sameItems items items' = true) : items = items' := by
  cases items with
  | nil =>
    cases items' with
    | nil => rfl
    | cons _ _ => cases h
  | cons v rest =>
    cases items' with
    | nil => cases h
    | cons v' rest' =>
      simp only [exactItems, sameItems, Bool.and_eq_true] at hexact h
      rw [eq_of_same hexact.1 h.1, items_eq_of_same hexact.2 h.2]

theorem entries_eq_of_same {entries entries' : List (String × ElementValue)}
    (hexact : exactEntries entries = true) (h : sameEntries entries entries' = true) :
    entries = entries' := by
  cases entries with
  | nil =>
    cases entries' with
    | nil => rfl
    | cons _ _ => cases h
  | cons entry rest =>
    cases entries' with
    | nil => cases h
    | cons entry' rest' =>
      obtain ⟨key, v⟩ := entry
      obtain ⟨key', v'⟩ := entry'
      simp only [exactEntries, sameEntries, Bool.and_eq_true, decide_eq_true_eq] at hexact h
      obtain ⟨⟨rfl, hvalue⟩, hrest⟩ := h
      rw [eq_of_same hexact.1 hvalue, entries_eq_of_same hexact.2 hrest]

end

end ElementValue

/-- Whether annotations are read back from a table once they are completed, as far as this can be
told without comparing doubles. -/
def Annotations.readsBack? (annotations : List Annotation) : Bool :=
  match AnnotationRegistry.builtin.replayed annotations with
  | .error _ => true
  | .ok completed =>
    match readTableAnnotations (tableText completed) with
    | .error _ => false
    | .ok parsed =>
      let value := ElementValue.array (completed.map (·.toValue))
      value.exact && value.same (.array (parsed.map (·.toValue)))

theorem Annotation.toValue_injective : Function.Injective Annotation.toValue := by
  rintro ⟨typeName, values⟩ ⟨typeName', values'⟩ h
  cases h
  rfl

theorem Annotations.read_of_check {annotations completed : List Annotation}
    (h : readsBack? annotations = true)
    (hcompleted : AnnotationRegistry.builtin.replayed annotations = .ok completed) :
    readTableAnnotations (tableText completed) = .ok completed := by
  simp only [readsBack?, hcompleted] at h
  split at h
  · cases h
  · next parsed hparsed =>
    obtain ⟨hexact, hsame⟩ := Bool.and_eq_true_iff.mp h
    have hvalues := ElementValue.array.inj (ElementValue.eq_of_same hexact hsame)
    rw [hparsed, Annotation.toValue_injective.list_map hvalues]

namespace Generator

variable {g : Generator} {r r' : ClassRegistry} {c : ClassMeta} {generated : GeneratedEntity}

/-- **Tables agree with generated models.** If a pass over a class succeeds in any mode, the model of
the entity is made at some time after it, and the module of the table is written under the same
policy, then the table that is read back from the tokens of the module, wherever literals and JSON
are read as they were written, answers all that the model answers, which is what the description
tells; and its rows name, property by property, the accessor classes that the pass registered. -/
theorem table_agrees {m m' : Machine} {model : EntityModel} {path : String} {source : EntitySource}
    {textOf : String → Option String} (hreach : r.Reachable)
    (hdigests : ClassRegistry.DigestsSeparate r.records generated.records)
    (h : g.generate r c = .ok (generated, r')) (hlater : r'.Continues m.registry)
    (hmade : (g.entityModel generated).on m = (.ok model, m'))
    (hwritten : EntitySource.ofEntity r'.annotations g.config path generated.entity = .ok source)
    (hliterals : ∀ s, Token.text? textOf [Token.quoted s] = some s)
    (hread : generated.entity.ReadsBack r'.annotations) :
    ∃ modulePath table snapshot, ModulePath.read? path = some modulePath ∧
      EntityTable.ofEntity r'.annotations g.config generated.entity = .ok table ∧
      source.code = Token.render (table.tokens modulePath) ∧
      EntityTable.read? textOf modulePath (table.tokens modulePath) = some table ∧
      model.snapshot.on m' = (.ok snapshot, m') ∧
      (EntityModel.table table).snapshot.on m' = (.ok snapshot, m') ∧
      generated.entity.Tells r'.annotations g.config snapshot ∧
      table.properties.map (·.accessorClass) = generated.accessorClasses ∧
      List.Forall₂ (fun row p => row.name = p.name ∧
          ∃ accessor, g.mode.backend.accessorClass generated.entity p = .ok accessor ∧
            accessor.name = row.accessorClass ∧
            r'.records.get? row.accessorClass = some accessor)
        table.properties generated.entity.properties := by
  obtain ⟨bodies, body, hinstalls⟩ := generate_installs hreach hdigests h
  -- The machine has a registry that has gone on, and in it the pass stays installed.
  have hinstalled := hinstalls.continues hlater
  have hlinked := hinstalled.linked_of_made (.refl _) hmade
  obtain ⟨annotations, ids, m'', hannotations, hmade', hmodelled⟩ :=
    hinstalled.make_linked hlinked (m := m) (.refl _)
  cases hmade.symm.trans hmade'
  rw [hlater.annotations] at hannotations hmodelled
  obtain ⟨described, hproperties, hdescribed, hsnapshot⟩ := hmodelled.described
  have htypes := Entity.ofClass_wellFormed hinstalls.makes.described
  obtain ⟨modulePath, table, hpath, htable, hcode⟩ := EntitySource.ofEntity_ok hwritten
  have hrows := EntityTable.ofEntity_rows htable
  refine ⟨modulePath, table, _, hpath, htable, hcode,
    EntityTable.read?_tokens hliterals modulePath table, hsnapshot,
    EntityTable.snapshot_on htable htypes hannotations hproperties hdescribed hread m',
    ⟨annotations, described, hannotations, hproperties, hdescribed, rfl⟩, ?_, ?_⟩
  · rw [hinstalls.makes.accessorClasses, ← List.forall₂_eq_eq_eq, List.forall₂_map_left_iff,
      List.forall₂_map_right_iff]
    exact hrows.imp fun row p hrow => hrow.2.2
  · refine hrows.imp fun row p ⟨hp, hname, hclass⟩ => ⟨hname, ?_⟩
    obtain ⟨accessor, hmade, haccessor, hstored⟩ := registers_accessor hreach hdigests h hp
    have hrow : accessor.name = row.accessorClass := haccessor.trans hclass.symm
    exact ⟨accessor, hmade, hrow, hrow ▸ hstored⟩

/-- The table of a class with annotated members, read as a compiler reads literals. -/
theorem table_agrees_account :
    ∃ generated r' id m' source modulePath table snapshot,
      (Generator.mk .annotated .runtime).generate {} Entity.account = .ok (generated, r') ∧
      ((Generator.mk .annotated .runtime).entityModel generated).on { registry := r' } =
        (.ok (.generated id), m') ∧
      EntitySource.ofEntity r'.annotations .annotated EntitySource.defaultPath generated.entity =
        .ok source ∧
      source.code = Token.render (table.tokens modulePath) ∧
      EntityTable.read? Literal.text? modulePath (table.tokens modulePath) = some table ∧
      (EntityModel.generated id).snapshot.on m' = (.ok snapshot, m') ∧
      (EntityModel.table table).snapshot.on m' = (.ok snapshot, m') ∧
      table.properties.map (·.accessorClass) = generated.accessorClasses := by
  obtain ⟨generated, r', hgenerate, hentity, hdigests, hobject, ⟨loaded, hload⟩, _, hannotations⟩ :=
    account_loads
  have hreach : ({} : ClassRegistry).Reachable := .new .builtin
  obtain ⟨bodies, body, hinstalls⟩ := generate_installs hreach hdigests hgenerate
  have hcast : (Instruction.checkCast generated.entity.name).WellFormed := by
    rw [hinstalls.describes.name]
    decide
  obtain ⟨_, _, m', _, hmade, _⟩ := hinstalls.make_entityModel hcast
    (ClassRegistry.load_ok_iff.mp hload) hobject (m := { registry := r' }) (.refl r')
  have hwritten : ∃ source, EntitySource.ofEntity r'.annotations .annotated
      EntitySource.defaultPath generated.entity = .ok source := by
    rw [hannotations]
    exact Checked.isOk_iff.mp (Checked.decided (P := fun e : Entity =>
      (EntitySource.ofEntity .builtin .annotated EntitySource.defaultPath e).isOk = true) hentity
        (by decide +kernel))
  obtain ⟨source, hwritten⟩ := hwritten
  have hread : generated.entity.ReadsBack r'.annotations := by
    have hchecked := Checked.decided (P := fun e : Entity =>
      (e.annotations :: e.properties.map (·.annotations)).all Annotations.readsBack? = true)
        hentity (by decide +kernel)
    rw [hannotations]
    exact fun annotations hmem completed hcompleted =>
      Annotations.read_of_check (List.all_eq_true.mp hchecked annotations hmem) hcompleted
  have hliterals : ∀ s, Token.text? Literal.text? [Token.quoted s] = some s := Literal.text?_quoted
  obtain ⟨modulePath, table, snapshot, _, _, hcode, htable, hsnapshot, hagrees, _, hclasses, _⟩ :=
    table_agrees hreach hdigests hgenerate ⟨generate_reachable hreach hgenerate, fun _ _ h => h, rfl⟩
      hmade hwritten hliterals hread
  exact ⟨generated, r', _, m', source, modulePath, table, snapshot, hgenerate, hmade, hwritten, hcode,
    htable, hsnapshot, hagrees, hclasses⟩

end Generator

end EntityForge
