import EntityForge.Proofs.Generated.Parity
import EntityForge.Proofs.Machine.BoundFields
import EntityForge.Proofs.Machine.Running

/-!
What an instance tells of its classes. Code that answers has run all its instructions, so a model
that was made has made the models of all properties, and each of these its accessor; whatever class
was made an instance of links. So all classes behind a model that was made link, and nothing has to
be asked of the registry besides.
-/

namespace EntityForge

namespace Run

variable {r : ClassRegistry} {levels : Nat} {className descriptor : String} {i : Instruction}

/-- Above a registry, an instance of a class was made. -/
def Instantiates (r : ClassRegistry) (levels : Nat) (className descriptor : String) : Prop :=
  ∃ m args id m', r.Later m.registry ∧
    (constructWith (execute levels) className descriptor args).on m = (.ok id, m')

/-- Above a registry, an instruction was run. -/
def Performs (r : ClassRegistry) (levels : Nat) (i : Instruction) : Prop :=
  ∃ type f m progress m', r.Later m.registry ∧
    (step (execute levels) type f i).on m = (.ok progress, m')

/-- Code that answers runs every instruction in front of its return. -/
theorem performs_code {type : MethodType} {f : Frame} {code rest : Code} {m m' : Machine} {v : Value}
    (hm : r.Later m.registry) (hcode : ∀ i ∈ code, i ≠ .returnValue ∧ i ≠ .returnVoid)
    (h : (runCode (execute levels) type f (code ++ rest)).on m = (.ok v, m')) :
    ∀ i ∈ code, Performs r levels i := by
  induction code generalizing f m with
  | nil => exact nofun
  | cons j code ih =>
    obtain ⟨⟨hvalue, hvoid⟩, hrest⟩ := List.forall_mem_cons.mp hcode
    obtain ⟨progress, m₁, hstep, h⟩ := on_bind_eq_ok h
    have hacting := step_acting (execute_acting levels) type f j m
    rw [hstep] at hacting
    cases progress with
    | finished w =>
      -- Only a return finishes a method.
      rcases step_leaves (execute levels) type f j m _ m₁ hstep w rfl with ⟨rfl, _⟩ | ⟨rfl, _⟩
      · exact absurd rfl hvoid
      · exact absurd rfl hvalue
    | running f' =>
      intro i hi
      rcases List.mem_cons.mp hi with rfl | hi
      · exact ⟨type, f, m, _, m₁, hm, hstep⟩
      · exact ih (hm.trans hacting.later) hrest h i hi

/-- A class that was loaded links. -/
theorem links_of_load {m m' : Machine} {c : LoadedClass} (hm : r.Later m.registry)
    (h : (load className).on m = (.ok c, m')) : r.Links className c := by
  rw [load_run] at h
  exact hm.links_iff.mp (ClassRegistry.load_ok_iff.mp (Prod.mk.inj h).1)

/-- A class of which there is an instance links. -/
theorem Instantiates.links (h : Instantiates r levels className descriptor) :
    ∃ c, r.Links className c := by
  obtain ⟨m, args, id, m', hm, hmade⟩ := h
  obtain ⟨c, m₁, hload, _⟩ := on_bind_eq_ok hmade
  exact ⟨c, links_of_load hm hload⟩

/-- An instance was made by running its constructor. -/
theorem Instantiates.performs {c : LoadedClass} {method : MethodDef} {code rest : Code}
    (h : Instantiates r levels className descriptor) (hlinks : r.Links className c)
    (hdeclared : c.declaredMethod? Construction.name descriptor = some method)
    (hmethod : method.code = code ++ rest)
    (hcode : ∀ i ∈ code, i ≠ .returnValue ∧ i ≠ .returnVoid) :
    ∃ deeper, ∀ i ∈ code, Performs r deeper i := by
  obtain ⟨m, args, id, m', hm, hmade⟩ := h
  obtain ⟨r', hload, hlater, _⟩ := load_on (hm.links_iff.mpr hlinks)
  rw [constructWith, on_bind_ok hload, on_bind_ok (allocate_on c _), hdeclared] at hmade
  obtain ⟨v, m₁, hrun, _⟩ := on_bind_eq_ok hmade
  cases levels with
  | zero => cases hrun
  | succ deeper =>
    obtain ⟨type, m₂, htype, hchecks⟩ := on_bind_eq_ok hrun
    obtain ⟨_, m₃, hargs, hbody⟩ := on_bind_eq_ok hchecks
    have hchecked := (checkArguments_acting method type args m₂).later
    rw [hargs] at hchecked
    rw [on_lift] at htype
    obtain ⟨_, rfl⟩ := Prod.mk.inj htype
    rw [hmethod] at hbody
    exact ⟨deeper, performs_code ((hm.trans hlater).trans hchecked) hcode hbody⟩

theorem Performs.new (h : Performs r levels (.new className descriptor)) :
    Instantiates r levels className descriptor := by
  obtain ⟨type, f, m, progress, m', hm, hstep⟩ := h
  obtain ⟨called, m₁, htype, hstep⟩ := on_bind_eq_ok hstep
  obtain ⟨⟨args, f'⟩, m₂, hpop, hstep⟩ := on_bind_eq_ok hstep
  obtain ⟨id, m₃, hmade, _⟩ := on_bind_eq_ok hstep
  rw [on_lift] at htype hpop
  obtain ⟨_, rfl⟩ := Prod.mk.inj htype
  obtain ⟨_, rfl⟩ := Prod.mk.inj hpop
  exact ⟨m, args, id, m₃, hm, hmade⟩

/-- What a run adapts its failures of answers as before. -/
theorem adapt_eq_ok {α : Type} {x : Run α} {g : Failure → Failure} {m m' : Machine} {a : α}
    (h : on (ExceptT.adapt g x) m = (.ok a, m')) : x.on m = (.ok a, m') := by
  have hopen : on (ExceptT.adapt g x) m = (Except.mapError g (x.on m).1, (x.on m).2) := rfl
  rw [hopen] at h
  obtain ⟨hresult, rfl⟩ := Prod.mk.inj h
  exact Prod.ext (Checked.mapError_eq_ok.mp hresult) rfl

/-- The class whose member was bound links. -/
theorem Performs.resolveField {name : String} (h : Performs r levels (.resolveField className name)) :
    ∃ c, r.Links className c := by
  obtain ⟨type, f, m, progress, m', hm, hstep⟩ := h
  obtain ⟨handle, m₁, hbound, _⟩ := on_bind_eq_ok hstep
  obtain ⟨c, m₂, hload, _⟩ := on_bind_eq_ok (adapt_eq_ok hbound)
  exact ⟨c, links_of_load hm hload⟩

theorem Performs.resolveMethod {name : String} {required : Bool}
    (h : Performs r levels (.resolveMethod className name descriptor required)) :
    ∃ c, r.Links className c := by
  obtain ⟨type, f, m, progress, m', hm, hstep⟩ := h
  obtain ⟨v, m₁, hbound, _⟩ := on_bind_eq_ok hstep
  obtain ⟨handle, m₂, hbound, _⟩ := on_bind_eq_ok hbound
  obtain ⟨c, m₃, hload, _⟩ := on_bind_eq_ok (adapt_eq_ok hbound)
  exact ⟨c, links_of_load hm hload⟩

end Run

open Run

namespace AccessorShape

/-- An accessor that binds members is made only where the class that has them links. -/
theorem Loaded.binds {s : AccessorShape} {backend : Backend} {accessor : LoadedClass}
    {r : ClassRegistry} {levels : Nat} (h : s.Loaded backend accessor)
    (hresolves : backend.needsAugmentation = false) (hlinks : r.Links s.className accessor)
    (hmade : Instantiates r levels s.className Construction.plain) :
    ∃ entity, r.Links s.entity entity := by
  have hconstructor : accessor.declaredMethod? Construction.name Construction.plain =
      some (constructor Construction.plain (s.bindCode ++ [.returnVoid])) := by
    rw [LoadedClass.declaredMethod?, (h.resolves hresolves).body]
    rfl
  have hgoes : ∀ i ∈ s.bindCode, i ≠ .returnValue ∧ i ≠ .returnVoid := by
    unfold bindCode
    rcases s.property.access with _ | ⟨getter, _ | setter⟩ <;> simp [Code.loadThis]
  obtain ⟨deeper, hperforms⟩ := hmade.performs hlinks hconstructor rfl hgoes
  unfold bindCode at hperforms
  cases haccess : s.property.access with
  | field =>
    rw [haccess] at hperforms
    exact (hperforms (.resolveField s.entity s.property.name) (by simp)).resolveField
  | method getter setter =>
    rw [haccess] at hperforms
    exact (hperforms (.resolveMethod s.entity getter.name getter.descriptor true)
      (by simp)).resolveMethod

end AccessorShape

namespace Generator

variable {g : Generator} {r r' : ClassRegistry} {c : ClassMeta} {generated : GeneratedEntity}
  {bodies : List ClassBody} {body : ClassBody}

/-- The model class of the entity makes the models of all properties. -/
theorem Installs.instantiates_model (h : g.Installs r r' c generated bodies body) {levels : Nat}
    (hmade : Instantiates r' levels generated.entity.modelName Construction.fromConfig) :
    ∃ deeper, ∀ p ∈ generated.entity.properties,
      Instantiates r' deeper (p.modelName generated.entity.name) Construction.plain := by
  obtain ⟨_, replay, type, _, _, hreplay, _, rfl⟩ := Entity.modelBody_ok h.makes.model
  obtain ⟨loaded, hlinks⟩ := hmade.links
  have hstored := h.stores (generated.entity.modelBodyOf replay type)
    (List.mem_append_right _ (List.mem_singleton.mpr rfl))
  have hfronts := hstored.fronts h.sound hlinks
  obtain ⟨code, hcode, hstraight, hnew⟩ :=
    generated.entity.construction_straight (Replay.code_straight hreplay)
  have hconstructor : loaded.declaredMethod? Construction.name Construction.fromConfig =
      some (AccessorShape.constructor Construction.fromConfig (code ++ [.returnVoid])) := by
    rw [LoadedClass.declaredMethod?, hfronts.body, ← hcode]
    rfl
  obtain ⟨deeper, hperforms⟩ := hmade.performs hlinks hconstructor rfl
    fun i hi => (hstraight i hi).2
  exact ⟨deeper, fun p hp => (hperforms _ (hnew p hp)).new⟩

/-- The model class of a property makes the accessor. -/
theorem Installs.instantiates_accessor (h : g.Installs r r' c generated bodies body) {levels : Nat}
    {p : Property} (hp : p ∈ generated.entity.properties)
    (hmade : Instantiates r' levels (p.modelName generated.entity.name) Construction.plain) :
    ∃ deeper, Instantiates r' deeper (GeneratedName.accessor generated.entity.name p.name)
      Construction.plain := by
  obtain ⟨_, replay, _, _, _, hreplay, _, _, _, _, _, hb⟩ := h.model_made hp
  obtain ⟨loaded, hlinks⟩ := hmade.links
  have hfronts := (h.stores _ hb).fronts h.sound hlinks
  obtain ⟨code, hcode, hstraight, hnew⟩ :=
    p.construction_straight generated.entity.name (Replay.code_straight hreplay)
  have hconstructor : loaded.declaredMethod? Construction.name Construction.plain =
      some (AccessorShape.constructor Construction.plain (code ++ [.returnVoid])) := by
    rw [LoadedClass.declaredMethod?, hfronts.body, ← hcode]
    rfl
  obtain ⟨deeper, hperforms⟩ := hmade.performs hlinks hconstructor rfl
    fun i hi => (hstraight i hi).2
  exact ⟨deeper, (hperforms _ hnew).new⟩

/-- If the model of an entity was made, all classes behind it link. -/
theorem Installs.linked_of_made (h : g.Installs r r' c generated bodies body) {m m' : Machine}
    {model : EntityModel} (hm : r'.Later m.registry)
    (hmade : (g.entityModel generated).on m = (.ok model, m')) : g.Linked r' generated := by
  obtain ⟨id, m₁, hmade, _⟩ := on_bind_eq_ok hmade
  rw [h.makes.modelClass] at hmade
  have hmodel : Instantiates r' maxCallDepth generated.entity.modelName Construction.fromConfig :=
    ⟨m, _, id, m₁, hm, hmade⟩
  obtain ⟨_, hmodels⟩ := h.instantiates_model hmodel
  refine ⟨hmodel.links, fun p hp => (hmodels p hp).links, fun p hp => ?_, fun hresolves hsome => ?_⟩
  · obtain ⟨_, haccessor⟩ := h.instantiates_accessor hp (hmodels p hp)
    exact haccessor.links
  · obtain ⟨p, hp⟩ := List.exists_mem_of_ne_nil _ hsome
    obtain ⟨_, haccessor⟩ := h.instantiates_accessor hp (hmodels p hp)
    obtain ⟨accessor, hlinks⟩ := haccessor.links
    exact (h.loaded_accessor hp hlinks).binds hresolves hlinks haccessor

end Generator

end EntityForge
