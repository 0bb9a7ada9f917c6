import EntityForge.Generated.Replay
import EntityForge.Model.Property
import EntityForge.Proofs.Generated.Code
import EntityForge.Proofs.Generated.Members
import EntityForge.Proofs.Machine.Construction

/-!
What the objects of generated classes are made of and what they answer. Making an object without
arguments either way answers a new object and leaves all others alone; a query runs the method of its
name, which answers a value that was known when the class was generated or a field of the object, and
leaves the machine as it is.
-/

namespace EntityForge

open Run

variable {m : Machine} {id : Nat}

/-! Values that fit what queries answer. -/

namespace Machine

theorem fits_text (m : Machine) (s : String) : m.fits (.text s) (.ofClass "java.lang.String") = true :=
  (Value.fits_class m.isInstance (by decide) _).trans
    (by simp [Value.conformsToClass, Value.stringClass])

theorem fits_items (m : Machine) (items : List Value) :
    m.fits (.list items) (.ofClass "java.util.List") = true :=
  (Value.fits_class m.isInstance (by decide) _).trans (by simp [Value.conformsToClass]; decide)

theorem fits_type (m : Machine) (t : TypeTree) :
    m.fits (.type t) (.ofClass "critter.mapping.TypeData") = true :=
  (Value.fits_class m.isInstance (by decide) _).trans (by simp [Value.conformsToClass])

theorem fits_config (m : Machine) (config : MappingConfig) :
    m.fits (.config config) (.ofClass "critter.mapping.MappingConfig") = true :=
  (Value.fits_class m.isInstance (by decide) _).trans (by simp [Value.conformsToClass])

theorem fits_bool (m : Machine) (b : Bool) :
    m.fits (.bool b) (.ofPrimitive .boolean) = true := rfl

theorem fits_accessor (h : m.isInstance id ClassName.accessor = true) :
    m.fits (.object id) (.ofClass ClassName.accessor) = true :=
  (Value.fits_class m.isInstance (by decide) _).trans (by simp [Value.conformsToClass, h])

end Machine

/-! Queries. -/

namespace Run

variable {query : MethodRef} {t : TypeTree} {v : Value}

/-- A query that answers what its code pushes. -/
theorem ask_code (code : Code)
    (hmethod : (m.classOf id).body.method? query.name query.descriptor =
      some (.answersCode query code))
    (hparse : MethodType.parse query.descriptor = .ok ⟨[], some t⟩) (hcode : code.Pushes [v])
    (hfits : m.fits v t = true) : (ask id query).on m = (.ok v, m) := by
  refine (callWith_on (LoadedClass.findMethod?_own hmethod)).trans (execute_on hparse .nil ?_)
  refine (hcode.moves _ _ _ m).ends (.finish (step_returnValue ?_))
  exact (Option.all_some ..).trans hfits

theorem ask_text {name s : String}
    (hmethod : (m.classOf id).body.method? (MethodRef.text name).name (MethodRef.text name).descriptor =
      some (.answersText (.text name) s)) :
    (ask id (.text name)).on m = (.ok (.text s), m) :=
  ask_code [Code.loadText s] hmethod (MethodType.parse_text name) (.loadConstant (.text s))
    (m.fits_text s)

theorem ask_bool {name : String} {b : Bool}
    (hmethod : (m.classOf id).body.method? (MethodRef.bool name).name (MethodRef.bool name).descriptor =
      some (.answersBool (.bool name) b)) :
    (ask id (.bool name)).on m = (.ok (.bool b), m) :=
  ask_code [.pushBool b] hmethod (MethodType.parse_bool name) (.pushBool b) (m.fits_bool b)

/-- A query that answers a field. -/
theorem ask_field {className field : String}
    (hmethod : (m.classOf id).body.method? query.name query.descriptor =
      some (.answersField query className field))
    (hparse : MethodType.parse query.descriptor = .ok ⟨[], some t⟩)
    (hinstance : m.isInstance id className = true) (hfield : m.field? id field = some v)
    (hfits : m.fits v t = true) : (ask id query).on m = (.ok v, m) := by
  refine (callWith_on (LoadedClass.findMethod?_own hmethod)).trans (execute_on hparse .nil ?_)
  refine .cons (step_load (Frame.enter_self _ _ _)) (.cons (step_getField hinstance hfield)
    (.finish (step_returnValue ?_)))
  exact (Option.all_some ..).trans hfits

theorem annotationsOf_uses (annotations : List Annotation) :
    PropertyModel.annotationsOf (.list (annotations.map .annotationUse)) = .ok annotations :=
  Checked.mapM_map_ok Value.toAnnotation .annotationUse (fun _ => rfl) annotations

/-! Objects made without arguments. -/

/-- On every machine behind a registry, an object of a class is made without arguments, with a
property that it has from then on. -/
def Makes (r : ClassRegistry) (levels : Nat) (className : String) (P : Machine → Nat → Prop) :
    Prop :=
  ∀ m, r.Later m.registry → ∃ m',
    (constructWith (execute levels) className Construction.plain []).on m =
      (.ok m.heap.size, m') ∧ m.Grows m' ∧ P m' m.heap.size

theorem Makes.step {r : ClassRegistry} {levels : Nat} {className : String}
    {P : Machine → Nat → Prop} (h : Makes r levels className P) (hm : r.Later m.registry)
    (type : MethodType) (f : Frame) :
    ∃ m', (step (execute levels) type f (.new className Construction.plain)).on m =
      (.ok (.running (f.push (.object m.heap.size))), m') ∧ m.Grows m' ∧ P m' m.heap.size := by
  obtain ⟨m', hmade, hgrows, hP⟩ := h m hm
  exact ⟨m', step_new MethodType.parse_plain rfl hmade, hgrows, hP⟩

/-- Making objects in turn pushes them, and each keeps the property with which it was made. -/
theorem makes_all {α : Type} {P : α → Machine → Nat → Prop} {r : ClassRegistry} {levels : Nat}
    {className : α → String} (items : List α)
    (hstable : ∀ a m m' id, P a m id → m.Grows m' → P a m' id)
    (hmakes : ∀ a ∈ items, Makes r levels (className a) (P a)) (hm : r.Later m.registry)
    (type : MethodType) (f : Frame) :
    ∃ ids m', Moves (execute levels) type
        (items.map fun a => .new (className a) Construction.plain) f m
        (f.pushAll (ids.map .object)) m' ∧
      m.Grows m' ∧ List.Forall₂ (fun a id => m.heap.size ≤ id ∧ P a m' id) items ids := by
  induction items generalizing m f with
  | nil => exact ⟨[], m, .nil f m, .refl m, .nil⟩
  | cons a items ih =>
    obtain ⟨m₁, hfirst, hgrows₁, hP⟩ := (hmakes a (by simp)).step hm type f
    obtain ⟨ids, m₂, hrest, hgrows₂, hids⟩ :=
      ih (fun b hb => hmakes b (by simp [hb])) (hm.trans hgrows₁.registry)
        (f.push (.object m.heap.size))
    refine ⟨m.heap.size :: ids, m₂, ?_, hgrows₁.trans hgrows₂,
      .cons ⟨Nat.le_refl _, hstable _ _ _ _ hP hgrows₂⟩ ?_⟩
    · rw [Frame.push_pushAll] at hrest
      exact .cons hfirst hrest
    · exact hids.imp fun _ _ h => ⟨Nat.le_trans hgrows₁.size h.1, h.2⟩

end Run

end EntityForge
