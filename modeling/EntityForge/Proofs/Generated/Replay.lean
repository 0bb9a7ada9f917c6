import EntityForge.Generated.Replay
import EntityForge.Proofs.Checked
import EntityForge.Proofs.Generated.Answers
import EntityForge.Proofs.Generated.TypeData

/-!
Replaying annotations. The code for an element pushes a value that stands for it, so an annotation
is built by the same settings by which it is completed; replaying the annotations of a model leaves
the completed ones in its annotation list, whatever that list held before. The code is refused for
exactly two shapes of element values, an annotation inside an annotation and an array that is too
long; where it is emitted, nothing but the list changes.
-/

namespace EntityForge

open Run

namespace Replay

variable {entity : String}

private theorem toElementValues?_length {values : List Value} {elements : List ElementValue}
    (h : Value.toElementValues? values = some elements) : values.length = elements.length := by
  induction values generalizing elements with
  | nil =>
    rw [Value.toElementValues?] at h
    cases h
    rfl
  | cons v values ih =>
    rw [Value.toElementValues?] at h
    split at h
    · next _ rest _ hrest =>
      cases h
      rw [List.length_cons, List.length_cons, ih hrest]
    · cases h

mutual

/-- The code for the value of an element pushes a value that stands for it. -/
theorem valueCode_pushes {value : ElementValue} {code : Code}
    (h : valueCode entity value = .ok code) :
    ∃ v, code.Pushes [v] ∧ v.toElementValue? = some value := by
  cases value with
  | bool b =>
    cases h
    exact ⟨.bool b, .pushBool b, rfl⟩
  | int i =>
    cases h
    exact ⟨.int i, .loadConstant (.int i), rfl⟩
  | long i =>
    cases h
    exact ⟨.long i, .loadConstant (.long i), rfl⟩
  | double d =>
    cases h
    exact ⟨.double d, .loadConstant (.double d), rfl⟩
  | text s =>
    cases h
    exact ⟨.text s, .loadConstant (.text s), rfl⟩
  | enumeration typeName variant =>
    cases h
    exact ⟨.enumeration typeName variant, .newEnum typeName variant, rfl⟩
  | classRef name =>
    rw [valueCode] at h
    exact ⟨.type (.ofClass name), Code.typeData_pushes (Checked.mapError_eq_ok.mp h), rfl⟩
  | array items =>
    rw [valueCode] at h
    split at h
    · next hcount =>
      split at h
      · cases h
      · next itemCode hitems =>
        cases h
        obtain ⟨rest, values, hcode, hpushes, hvalues⟩ := itemsCode_pushes hitems
        have hlength := toElementValues?_length hvalues
        rw [List.reverse_nil, List.flatten_nil, List.nil_append] at hcode
        subst hcode
        refine ⟨.list values, hlength ▸ hpushes.newList (hlength ▸ hcount), ?_⟩
        rw [Value.toElementValue?, hvalues]
        rfl
    · cases h
  | nested typeName values => cases h

theorem itemsCode_pushes {done : List Code} {items : List ElementValue} {code : Code}
    (h : itemsCode entity done items = .ok code) :
    ∃ rest values, code = done.reverse.flatten ++ rest ∧ rest.Pushes values ∧
      Value.toElementValues? values = some items := by
  cases items with
  | nil =>
    rw [itemsCode] at h
    cases h
    exact ⟨[], [], (List.append_nil _).symm, .nil, rfl⟩
  | cons item items =>
    rw [itemsCode] at h
    split at h
    · cases h
    · next first hfirst =>
      obtain ⟨v, hv, hvalue⟩ := valueCode_pushes hfirst
      obtain ⟨rest, values, hcode, hrest, hvalues⟩ := itemsCode_pushes h
      refine ⟨first ++ rest, v :: values, ?_, hv.append hrest, ?_⟩
      · rw [hcode, List.reverse_cons, List.flatten_append, List.flatten_singleton,
          List.append_assoc]
      · rw [Value.toElementValues?, hvalue, hvalues]

end

/-! Straightness. -/

theorem elementCode_straight {element : String × ElementValue} {code : Code}
    (h : elementCode entity element = .ok code) : code.Straight := by
  obtain ⟨value, hvalue, h⟩ := Checked.bind_eq_ok.mp h
  obtain rfl := Except.ok.inj h
  obtain ⟨_, hpushes, _⟩ := valueCode_pushes hvalue
  simp [hpushes.straight, Code.StraightAt, Instruction.WellFormed]

theorem annotationCode_straight {a : Annotation} {code : Code}
    (h : annotationCode entity a = .ok code) : code.Straight := by
  obtain ⟨parts, hparts, h⟩ := Checked.bind_eq_ok.mp h
  obtain rfl := Except.ok.inj h
  have hstraight : Code.Straight parts.flatten := .flatten fun part hpart => by
    obtain ⟨_, _, hcode⟩ := Checked.forall₂_mem_right (Checked.mapM_eq_ok.mp hparts) hpart
    exact elementCode_straight hcode
  simp [hstraight, Code.loadThis, Code.StraightAt, Instruction.WellFormed]

theorem code_straight {className : String} {annotations : List Annotation} {code : Code}
    (h : Replay.code entity className annotations = .ok code) : code.Straight := by
  obtain ⟨parts, hparts, h⟩ := Checked.bind_eq_ok.mp h
  obtain rfl := Except.ok.inj h
  have hstraight : Code.Straight parts.flatten := .flatten fun part hpart => by
    obtain ⟨_, _, hcode⟩ := Checked.forall₂_mem_right (Checked.mapM_eq_ok.mp hparts) hpart
    exact annotationCode_straight hcode
  simp [hstraight, Code.loadThis, Code.StraightAt, Instruction.WellFormed]

/-! What the code does. -/

variable {callee : Callee} {type : MethodType} {f : Frame} {m : Machine}
  {registry : AnnotationRegistry}

/-- The code for elements sets them in the open annotation, one after the other. -/
theorem elements_move {elements : List (String × ElementValue)} {parts : List Code}
    (h : elements.mapM (elementCode entity) = .ok parts) {draft built : AnnotationDraft}
    (hbuilt : elements.foldlM (fun d (element, value) => d.setValue element value) draft =
      .ok built) : Moves callee type parts.flatten (f.opening draft) m (f.opening built) m := by
  have hparts := Checked.mapM_eq_ok.mp h
  clear h
  induction hparts generalizing draft with
  | nil =>
    cases hbuilt
    exact .nil _ _
  | @cons element part elements parts hpart _ ih =>
    obtain ⟨name, value⟩ := element
    obtain ⟨code, hcode, hpart⟩ := Checked.bind_eq_ok.mp hpart
    obtain rfl := Except.ok.inj hpart
    obtain ⟨v, hpushes, hvalue⟩ := valueCode_pushes hcode
    rw [List.foldlM_cons] at hbuilt
    obtain ⟨next, hnext, hbuilt⟩ := Checked.bind_eq_ok.mp hbuilt
    have hset : Moves callee type (code ++ [.annotationSet name]) (f.opening draft) m
        (f.opening next) m :=
      (hpushes.moves callee type (f.opening draft) m).append
        (.step (step_annotationSet hvalue hnext))
    exact hset.append (ih hbuilt)

/-- The code for an annotation appends the completed annotation. -/
theorem annotationCode_moves {a completed : Annotation} {code : Code} {self : Nat} {m' : Machine}
    (h : annotationCode entity a = .ok code) (hcomplete : registry.complete a = .ok completed)
    (hself : f.locals[0]? = some (.object self)) (hregistry : m.registry.annotations = registry)
    (happend : (annotate self completed).on m = (.ok (), m')) :
    Moves callee type code f m f m' := by
  subst hregistry
  obtain ⟨parts, hparts, h⟩ := Checked.bind_eq_ok.mp h
  obtain rfl := Except.ok.inj h
  obtain ⟨draft, hdraft, hcomplete⟩ := Checked.bind_eq_ok.mp hcomplete
  obtain ⟨built, hbuilt, hcomplete⟩ := Checked.bind_eq_ok.mp hcomplete
  obtain rfl := Except.ok.inj hcomplete
  have hopened : Moves callee type [Code.loadThis, .annotationBegin a.typeName] f m
      ((f.push (.object self)).opening draft) m :=
    .cons (step_load hself) (.step (step_annotationBegin hdraft))
  exact (hopened.append (elements_move hparts hbuilt)).append (.step (step_annotationEnd happend))

end Replay

/-! The annotation list of a model. -/

/-- The type of the field that holds the annotations of a model. -/
def annotationsType : TypeTree := .ofClass "java.util.List"

variable {m : Machine} {self slot : Nat} {c : LoadedClass}

namespace Machine

/-- An object has a field for annotations: a slot whose type takes every list. -/
structure Annotated (m : Machine) (id slot : Nat) : Prop where
  bound : id < m.heap.size
  found : (m.classOf id).slot? annotationsField = some slot
  room : slot < (m.object id).fields.length
  lists : ∃ field, (m.classOf id).slots[slot]? = some field ∧
    ∀ items, m.fits (.list items) field.type = true

/-- An object of a class with a list field for annotations. -/
theorem Stands.annotated (h : m.Stands self c)
    (hfield : c.HasField annotationsField annotationsType) :
    ∃ slot, m.Annotated self slot ∧ c.slot? annotationsField = some slot ∧
      slot < c.slots.length := by
  obtain ⟨slot, field, hslot, hget, htype⟩ := hfield
  have hbound := (List.getElem?_eq_some_iff.mp hget).1
  refine ⟨slot, ⟨h.bound, h.type ▸ hslot, h.room ▸ hbound, field, h.type ▸ hget, ?_⟩, hslot, hbound⟩
  intro items
  rw [htype]
  exact m.fits_items items

namespace Annotated

theorem put (h : m.Annotated self slot) (v : Value) : (m.put self slot v).Annotated self slot where
  bound := by rw [put_size]; exact h.bound
  found := by rw [classOf_put]; exact h.found
  room := by rw [object_put_self m self slot v h.bound, List.length_set]; exact h.room
  lists := by rw [classOf_put, fits_put]; exact h.lists

theorem put_value (h : m.Annotated self slot) (v : Value) :
    ((m.put self slot v).object self).fields[slot]? = some v := by
  rw [object_put_self m self slot v h.bound]
  exact List.getElem?_set_self h.room

theorem put_field? (h : m.Annotated self slot) (v : Value) :
    (m.put self slot v).field? self annotationsField = some v :=
  field?_put_self v h.found h.room h.bound

theorem setField_on (h : m.Annotated self slot) (items : List Value) :
    (setField self annotationsField (.list items)).on m =
      (.ok (), m.put self slot (.list items)) := by
  obtain ⟨field, hfield, hfits⟩ := h.lists
  exact Run.setField_on h.found hfield h.room (hfits items)

/-- Appending an annotation writes the list with the annotation behind it. -/
theorem annotate_on (h : m.Annotated self slot) {items : List Value}
    (hitems : (m.object self).fields[slot]? = some (.list items)) (a : Annotation) :
    (annotate self a).on m =
      (.ok (), m.put self slot (.list (items ++ [.annotationUse a]))) := by
  rw [annotate, on_bind_ok (getField_on h.found hitems)]
  exact h.setField_on _

end Annotated

end Machine

namespace Replay

variable {entity : String} {registry : AnnotationRegistry} {callee : Callee} {type : MethodType}
  {f : Frame}

private theorem annotations_move (callee : Callee) (type : MethodType)
    {annotations completed : List Annotation} {parts : List Code}
    (hcodes : List.Forall₂ (fun a code => annotationCode entity a = .ok code) annotations parts)
    (hcompleted : List.Forall₂ (fun a b => registry.complete a = .ok b) annotations completed)
    (hself : f.locals[0]? = some (.object self)) (hannotated : m.Annotated self slot)
    (hregistry : m.registry.annotations = registry) {items : List Value}
    (hitems : (m.object self).fields[slot]? = some (.list items)) :
    Moves callee type parts.flatten f m f
      (m.put self slot (.list (items ++ completed.map .annotationUse))) := by
  induction hcodes generalizing completed m items with
  | nil =>
    cases hcompleted
    rw [List.map_nil, List.append_nil, Machine.put_same hitems]
    exact .nil f m
  | @cons a code annotations parts hcode _ ih =>
    cases hcompleted with
    | @cons _ b _ completed hcomplete hcompleted =>
      let written : Value := .list (items ++ [.annotationUse b])
      have hfirst : Moves callee type code f m f (m.put self slot written) :=
        annotationCode_moves hcode hcomplete hself hregistry
          (hannotated.annotate_on hitems b)
      have hrest := ih hcompleted (hannotated.put written) hregistry (hannotated.put_value written)
      rw [Machine.put_put, List.append_assoc] at hrest
      exact hfirst.append hrest

/-- Replaying annotations writes the list of the completed ones, and nothing else. -/
theorem code_puts (callee : Callee) (type : MethodType) {className : String}
    {annotations completed : List Annotation} {code : Code}
    (h : Replay.code entity className annotations = .ok code)
    (hcompleted : annotations.mapM registry.complete = .ok completed)
    (hself : f.locals[0]? = some (.object self)) (hinstance : m.isInstance self className = true)
    (hannotated : m.Annotated self slot) (hregistry : m.registry.annotations = registry) :
    Moves callee type code f m f (m.put self slot (.list (completed.map .annotationUse))) := by
  obtain ⟨parts, hparts, h⟩ := Checked.bind_eq_ok.mp h
  obtain rfl := Except.ok.inj h
  have hcleared : Moves callee type
      [Code.loadThis, .newList 0, .putField className annotationsField] f m f
      (m.put self slot (.list [])) :=
    .cons (step_load hself)
      (.cons (step_newList (f := f.push (.object self)) [] rfl)
        (.step (step_putField hinstance (hannotated.setField_on []))))
  have hreplayed := annotations_move callee type (Checked.mapM_eq_ok.mp hparts)
    (Checked.mapM_eq_ok.mp hcompleted) hself (hannotated.put (.list [])) hregistry
    (hannotated.put_value (.list []))
  rw [Machine.put_put, List.nil_append] at hreplayed
  exact hcleared.append hreplayed

/-- Replaying annotations leaves the completed ones in the list of the model. -/
theorem code_moves (callee : Callee) (type : MethodType) {className : String}
    {annotations completed : List Annotation} {code : Code}
    (h : Replay.code entity className annotations = .ok code)
    (hcompleted : annotations.mapM registry.complete = .ok completed) (hstands : m.Stands self c)
    (hname : c.name = className) (hfield : c.HasField annotationsField annotationsType)
    (hself : f.locals[0]? = some (.object self)) (hregistry : m.registry.annotations = registry) :
    ∃ m', Moves callee type code f m f m' ∧
      Machine.Sets self annotationsField (.list (completed.map .annotationUse)) m m' := by
  subst hname
  obtain ⟨slot, hannotated, hslot, hbound⟩ := hstands.annotated hfield
  exact ⟨_, code_puts callee type h hcompleted hself hstands.isInstance hannotated hregistry,
    Machine.put_sets hstands hslot hbound _⟩

end Replay

/-- The annotations that a model replays are those that are replayed, once completed. -/
theorem AnnotationRegistry.replayable_ok {registry : AnnotationRegistry}
    {annotations known : List Annotation} (h : registry.replayable annotations = .ok known) :
    ∃ completed, known.mapM registry.complete = .ok completed ∧
      registry.replayed annotations = .ok completed := by
  obtain ⟨completed, hcompleted, h⟩ := Checked.bind_eq_ok.mp h
  obtain rfl := Except.ok.inj h
  exact ⟨completed, hcompleted, hcompleted⟩

/-! What replaying comes to. -/

namespace ElementValue

mutual

/-- A value and, if it is an array, the parts of its items. -/
def parts : ElementValue → List ElementValue
  | .array items => .array items :: partsAll items
  | v => [v]

def partsAll : List ElementValue → List ElementValue
  | [] => []
  | v :: vs => parts v ++ partsAll vs

end

end ElementValue

namespace Replay

open ElementValue Run

/-- A value for which there is no code, an annotation or an array with more items than an
instruction can count, and the error that says so. -/
def Unsupported (entity : String) : ElementValue → GenerationError → Prop
  | .nested typeName _, e => e = .unsupported entity (.annotationInside typeName)
  | .array items, e =>
    65535 < items.length ∧ e = .unsupported entity .annotationArrayTooLong
  | _, _ => False

variable {entity : String}

theorem itemsCode_cons (done : List Code) (v : ElementValue) (vs : List ElementValue) :
    itemsCode entity done (v :: vs) =
      (valueCode entity v >>= fun code => itemsCode entity (code :: done) vs) := by
  rw [itemsCode]
  cases valueCode entity v <;> rfl

mutual

/-- Every part of a value has code, or there is one that has none. -/
theorem valueCode_blames (v : ElementValue) :
    Checked.Blames (Unsupported entity) v.parts (valueCode entity v) := by
  cases v with
  | array items =>
    have hitems := itemsCode_blames [] items
    rw [valueCode, parts]
    split
    · next hcount =>
      cases hcode : itemsCode entity [] items with
      | error e =>
        rw [hcode] at hitems
        obtain ⟨v, hv, hbad⟩ := hitems
        exact ⟨v, List.mem_cons_of_mem _ hv, hbad⟩
      | ok code =>
        rw [hcode] at hitems
        exact List.forall_mem_cons.mpr ⟨fun e hbad => Nat.not_lt_of_le hcount hbad.1, hitems⟩
    · next hcount => exact ⟨_, List.mem_cons_self, Nat.lt_of_not_le hcount, rfl⟩
  | nested typeName values => exact ⟨_, List.mem_cons_self, rfl⟩
  | classRef name =>
    have hnodes : ∀ s ∈ (TypeTree.ofClass name).nodes, s.args.length ≤ 255 :=
      List.forall_mem_singleton.mpr (Nat.zero_le _)
    obtain ⟨code, hcode⟩ := Code.typeData_ok_iff.mpr hnodes
    rw [valueCode, hcode]
    exact List.forall_mem_singleton.mpr fun e hbad => hbad
  | _ => exact List.forall_mem_singleton.mpr fun e hbad => hbad

theorem itemsCode_blames (done : List Code) (vs : List ElementValue) :
    Checked.Blames (Unsupported entity) (partsAll vs) (itemsCode entity done vs) := by
  cases vs with
  | nil => exact .ok _
  | cons v vs =>
    rw [itemsCode_cons, partsAll]
    exact (valueCode_blames v).bind fun code => itemsCode_blames (code :: done) vs

end

/-- The parts of the values that annotations have for their elements. -/
def elementParts (annotations : List Annotation) : List ElementValue :=
  annotations.flatMap fun a => a.values.flatMap fun element => element.2.parts

/-- Code is emitted for annotations, or one of their values has a part that has none. -/
theorem code_blames (className : String) (annotations : List Annotation) :
    Checked.Blames (Unsupported entity) (elementParts annotations)
      (Replay.code entity className annotations) :=
  (Checked.Blames.mapM fun _ _ => (Checked.Blames.mapM fun element _ =>
    (valueCode_blames element.2).bind_ok _).bind_ok _).bind_ok _

/-- Replaying is completing. Where the annotations can be replayed and code is emitted for them, the
code, run in any frame whose receiver has an annotation list, over a registry of the same kinds,
writes the registered annotations, completed and in order, into the list; the frame and every other
slot stay as they are. Code is emitted unless a part of some value is an annotation or too long an
array, and the error says which. -/
theorem replay_completes {registry : AnnotationRegistry} {annotations known : List Annotation}
    (h : registry.replayable annotations = .ok known) :
    ∃ completed,
      (annotations.filter fun a => registry.contains a.typeName).mapM registry.complete =
        .ok completed ∧
      ∀ entity className,
        (∀ code, Replay.code entity className known = .ok code →
          ∀ (callee : Callee) (type : MethodType) (f : Frame) (m : Machine) (self slot : Nat),
            f.locals[0]? = some (.object self) → m.isInstance self className = true →
            m.Annotated self slot → m.registry.annotations = registry →
            let m' := m.put self slot (.list (completed.map .annotationUse))
            Moves callee type code f m f m' ∧
              m'.field? self annotationsField = some (.list (completed.map .annotationUse)) ∧
              ∀ id i, id ≠ self ∨ i ≠ slot →
                (m'.object id).fields[i]? = (m.object id).fields[i]?) ∧
        ((∃ code, Replay.code entity className known = .ok code) ↔
          ∀ v ∈ elementParts known, ∀ e, ¬ Unsupported entity v e) ∧
        ∀ e, Replay.code entity className known = .error e →
          ∃ a ∈ known, ∃ element ∈ a.values, ∃ v ∈ element.2.parts, Unsupported entity v e := by
  obtain ⟨completed, hcompleted, hreplayed⟩ := AnnotationRegistry.replayable_ok h
  refine ⟨completed, hreplayed,
    fun entity className => ⟨?_, (code_blames className known).ok_iff, ?_⟩⟩
  · intro code hcode callee type f m self slot hself hinstance hannotated hregistry m'
    refine ⟨code_puts callee type hcode hcompleted hself hinstance hannotated hregistry,
      hannotated.put_field? _, fun id i hother => ?_⟩
    by_cases hid : id = self
    · subst hid
      have hslot : slot ≠ i := fun heq => hother.elim (absurd rfl) (absurd heq.symm)
      rw [Machine.object_put_self m id slot _ hannotated.bound]
      exact List.getElem?_set_ne hslot
    · rw [Machine.object_put_ne m self slot _ hid]
  · intro e he
    obtain ⟨v, hv, hbad⟩ := (code_blames className known).of_error he
    obtain ⟨a, ha, hv⟩ := List.mem_flatMap.mp hv
    obtain ⟨element, helement, hv⟩ := List.mem_flatMap.mp hv
    exact ⟨a, ha, element, helement, v, hv, hbad⟩

/-- A model with nothing but its annotation list, which is not set yet. -/
def bareModel : Machine where
  registry := {}
  heap := #[⟨⟨{ name := "app.Model", kind := .propertyModel }, none,
    [⟨"app.Model", annotationsField, annotationsType, 0, .null⟩]⟩, [.null]⟩]

/-- An entity annotation and a lone name to load from are completed; an annotation of no registered
kind is left out. -/
theorem replay_completes_login :
    let entity : Annotation := ⟨AnnotationNames.entity, [("value", .text "users")]⟩
    let other : Annotation := .ofType "java.lang.Deprecated"
    let alsoLoad : Annotation := ⟨AnnotationNames.alsoLoad, [("value", .text "login")]⟩
    let registry : AnnotationRegistry := .builtin
    registry.replayable [entity, other, alsoLoad] = .ok [entity, alsoLoad] ∧
    ∃ (completed : List Annotation) (code : Code),
      [entity, alsoLoad].mapM registry.complete = .ok completed ∧
      Replay.code "User" "app.Model" [entity, alsoLoad] = .ok code ∧
      ∀ (callee : Callee) (type : MethodType) (f : Frame), f.locals[0]? = some (.object 0) →
        ∃ m', Moves callee type code f bareModel f m' ∧
          m'.field? 0 annotationsField = some (.list (completed.map .annotationUse)) := by
  intro entity other alsoLoad registry
  have hknown : registry.replayable [entity, other, alsoLoad] = .ok [entity, alsoLoad] := rfl
  obtain ⟨completed, hcompleted, hcode⟩ := replay_completes hknown
  obtain ⟨hmoves, hemitted, _⟩ := hcode "User" "app.Model"
  obtain ⟨code, hcode⟩ :=
    hemitted.mpr (by simp [elementParts, parts, Unsupported, entity, alsoLoad])
  have hannotated : bareModel.Annotated 0 0 :=
    ⟨by decide, rfl, by decide, _, rfl, bareModel.fits_items⟩
  refine ⟨hknown, completed, code, hcompleted, hcode, fun callee type f hself => ?_⟩
  obtain ⟨hmoves, hfield, _⟩ :=
    hmoves code hcode callee type f bareModel 0 0 hself (by decide) hannotated rfl
  exact ⟨_, hmoves, hfield⟩

end Replay

end EntityForge
