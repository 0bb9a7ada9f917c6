import EntityForge.Entity.Descriptor
import EntityForge.Proofs.Registry.Slots
import EntityForge.Proofs.Text.Keyed
import Mathlib.Data.Option.Basic

/-!
Methods that nobody names. Two classes match if they differ in hidden methods only and no code of
the first one names any of these: then every other name finds the same in both, and both have the
same slots. If all that two registries define matches, whatever is loaded from both matches, too,
and loading fails in both or in neither.
-/

namespace EntityForge

variable {hidden : List MethodRef}

/-! What names no hidden method. -/

/-- A handle is not bound to a hidden method. -/
def MemberHandle.Avoids (hidden : List MethodRef) (h : MemberHandle) : Prop :=
  match h.target with
  | .field _ _ => True
  | .method descriptor _ => ⟨h.name, descriptor⟩ ∉ hidden

/-- A value is not a handle on a hidden method. Nothing is taken out of lists and maps, so what
these hold may be anything. -/
def Value.Avoids (hidden : List MethodRef) : Value → Prop
  | .handle h => h.Avoids hidden
  | _ => True

/-- An instruction does not call or bind a hidden method. -/
def Instruction.Avoids (hidden : List MethodRef) : Instruction → Prop
  | .invoke _ name descriptor => ⟨name, descriptor⟩ ∉ hidden
  | .resolveMethod _ name descriptor _ => ⟨name, descriptor⟩ ∉ hidden
  | _ => True

/-- The code of a method does not call or bind a hidden method. -/
def MethodDef.Avoids (hidden : List MethodRef) (m : MethodDef) : Prop :=
  ∀ i ∈ m.code, i.Avoids hidden

theorem Value.avoids_of_primitive {v : Value} {p : Primitive} (h : v.primitive? = some p) :
    v.Avoids hidden := by
  cases v <;> first | exact trivial | cases h

theorem StartsWith.avoids {initial : Option Constant} {type : TypeTree} {v : Value}
    (h : StartsWith initial type v) : v.Avoids hidden := by
  cases initial with
  | none =>
    rw [show v = Value.zero type from h]
    unfold Value.zero
    split <;> exact trivial
  | some c =>
    obtain ⟨_, _, hvalue⟩ | ⟨_, _, _, s, rfl⟩ := Value.ofInitializer_cases h
    · exact Value.avoids_of_primitive hvalue
    · exact trivial

/-! Classes. -/

namespace ClassBody

variable {b b' : ClassBody}

/-- The class without the hidden methods. -/
def without (hidden : List MethodRef) (b : ClassBody) : ClassBody :=
  { b with methods := b.methods.filter fun m => (⟨m.name, m.descriptor⟩ : MethodRef) ∉ hidden }

theorem method?_without {name descriptor : String}
    (h : (⟨name, descriptor⟩ : MethodRef) ∉ hidden) :
    (b.without hidden).method? name descriptor = b.method? name descriptor := by
  unfold method? without
  rw [List.find?_filter]
  congr 1
  funext m
  grind

/-- Two classes differ in hidden methods only, and the first one names none of these. -/
structure Matches (hidden : List MethodRef) (b b' : ClassBody) : Prop where
  same : b.without hidden = b'.without hidden
  avoids : ∀ m ∈ b.methods, m.Avoids hidden

namespace Matches

theorem refl (h : ∀ m ∈ b.methods, m.Avoids hidden) : b.Matches hidden b := ⟨rfl, h⟩

variable (h : b.Matches hidden b')
include h

theorem name : b.name = b'.name := congrArg (·.name) h.same

theorem superName : b.superName = b'.superName := congrArg (·.superName) h.same

theorem interfaces : b.interfaces = b'.interfaces := congrArg (·.interfaces) h.same

theorem fields : b.fields = b'.fields := congrArg (·.fields) h.same

theorem method? {name descriptor : String} (hopen : (⟨name, descriptor⟩ : MethodRef) ∉ hidden) :
    b.method? name descriptor = b'.method? name descriptor := by
  rw [← method?_without hopen, h.same, method?_without hopen]

theorem method_avoids {name descriptor : String} {m : MethodDef}
    (hfound : b.method? name descriptor = some m) : m.Avoids hidden :=
  h.avoids m (List.mem_of_find?_eq_some hfound)

end Matches

end ClassBody

namespace LoadedClass

/-- Two loaded classes match, and so do the classes that they extend. -/
inductive Matches (hidden : List MethodRef) : LoadedClass → LoadedClass → Prop where
  | root {b b' : ClassBody} {slots : List FieldSlot} (hbody : b.Matches hidden b')
      (hslots : ∀ s ∈ slots, s.initial.Avoids hidden) :
      Matches hidden ⟨b, none, slots⟩ ⟨b', none, slots⟩
  | child {b b' : ClassBody} {parent parent' : LoadedClass} {slots : List FieldSlot}
      (hbody : b.Matches hidden b') (hparent : Matches hidden parent parent')
      (hslots : ∀ s ∈ slots, s.initial.Avoids hidden) :
      Matches hidden ⟨b, some parent, slots⟩ ⟨b', some parent', slots⟩

namespace Matches

theorem default : (default : LoadedClass).Matches hidden default := .root (.refl nofun) nofun

variable {c c' : LoadedClass} (h : c.Matches hidden c')
include h

theorem body : c.body.Matches hidden c'.body := by
  cases h with
  | root hbody | child hbody => exact hbody

theorem name : c.name = c'.name := h.body.name

theorem slots : c.slots = c'.slots := by cases h <;> rfl

theorem slots_avoid {s : FieldSlot} (hs : s ∈ c.slots) : s.initial.Avoids hidden := by
  cases h with
  | root _ hslots | child _ _ hslots => exact hslots s hs

theorem slot? (name : String) : c.slot? name = c'.slot? name := by
  rw [LoadedClass.slot?, h.slots, LoadedClass.slot?]

theorem initialFields : c.initialFields = c'.initialFields := by
  rw [LoadedClass.initialFields, h.slots, LoadedClass.initialFields]

theorem initialFields_avoid {v : Value} (hv : v ∈ c.initialFields) : v.Avoids hidden := by
  obtain ⟨s, hs, rfl⟩ := List.mem_map.mp hv
  exact h.slots_avoid hs

theorem isSubclassOf (target : String) : c.isSubclassOf target = c'.isSubclassOf target := by
  induction h with
  | root hbody =>
    simp only [LoadedClass.isSubclassOf, hbody.name, hbody.interfaces, hbody.superName]
  | child hbody _ _ ih =>
    simp only [LoadedClass.isSubclassOf, hbody.name, hbody.interfaces, ih]

variable {name descriptor : String}

/-- A name that is not hidden finds the same method in both. -/
theorem findMethod? (hopen : (⟨name, descriptor⟩ : MethodRef) ∉ hidden) :
    c.findMethod? name descriptor = c'.findMethod? name descriptor := by
  induction h with
  | root hbody => simp only [LoadedClass.findMethod?, hbody.method? hopen]
  | child hbody _ _ ih => simp only [LoadedClass.findMethod?, hbody.method? hopen, ih]

theorem findMethod_avoids {m : MethodDef} (hfound : c.findMethod? name descriptor = some m) :
    m.Avoids hidden := by
  induction h with
  | root hbody => exact hbody.method_avoids hfound
  | child hbody _ _ ih =>
    rcases Option.or_eq_some_iff.mp hfound with hown | ⟨_, hinherited⟩
    · exact hbody.method_avoids hown
    · exact ih hinherited

theorem declaredMethod? (hopen : (⟨name, descriptor⟩ : MethodRef) ∉ hidden) :
    c.declaredMethod? name descriptor = c'.declaredMethod? name descriptor := h.body.method? hopen

theorem declaredMethod_avoids {m : MethodDef}
    (hfound : c.declaredMethod? name descriptor = some m) : m.Avoids hidden := h.body.method_avoids hfound

end Matches

theorem link_matches {b b' : ClassBody} {parent parent' : Option LoadedClass}
    (hbody : b.Matches hidden b') (hparent : Option.Rel (Matches hidden) parent parent') :
    Checked.Alike (Matches hidden) (link b parent) (link b' parent') := by
  have hown : (instanceFields b).mapM (slotOf b.name) =
      (instanceFields b').mapM (slotOf b'.name) := by
    rw [instanceFields, instanceFields, hbody.fields, hbody.name]
  unfold link
  rw [← hown]
  cases hslots : (instanceFields b).mapM (slotOf b.name) with
  | error e => exact .error e
  | ok own =>
    have havoid : ∀ s ∈ own, s.initial.Avoids hidden := by
      intro s hs
      obtain ⟨f, _, hslot⟩ := Checked.forall₂_mem_right (Checked.mapM_eq_ok.mp hslots) hs
      exact (ClassRegistry.slotOf_lays hslot).initial.avoids
    cases hparent with
    | none => exact .ok (.root hbody havoid)
    | @some p p' hp =>
      have hinherited : p'.slots = p.slots := hp.slots.symm
      change Checked.Alike (Matches hidden) (Except.ok (⟨b, some p, p.slots ++ own⟩ : LoadedClass))
        (.ok ⟨b', some p', p'.slots ++ own⟩)
      rw [hinherited]
      exact .ok (.child hbody hp
        (List.forall_mem_append.mpr ⟨fun _ => hp.slots_avoid, havoid⟩))

end LoadedClass

/-! Registries. -/

namespace ClassRegistry

/-- Two registries know the same names, and what they define and have loaded matches. -/
structure Matches (hidden : List MethodRef) (r r' : ClassRegistry) : Prop where
  contains : r.records.contains = r'.records.contains
  definition : ∀ name, Checked.Alike (ClassBody.Matches hidden) (definition r.records name)
    (definition r'.records name)
  loaded : ∀ name, Option.Rel (LoadedClass.Matches hidden) (r.loaded.get? name)
    (r'.loaded.get? name)
  annotations : r.annotations = r'.annotations

/-- What two loads answer and the classes that they leave behind match. -/
private structure LoadsAlike (hidden : List MethodRef)
    (x x' : Except Failure LoadedClass × Keyed LoadedClass) : Prop where
  answer : Checked.Alike (LoadedClass.Matches hidden) x.1 x'.1
  loaded : ∀ name, Option.Rel (LoadedClass.Matches hidden) (x.2.get? name) (x'.2.get? name)

variable {cache cache' : Keyed LoadedClass}

private theorem linkAndKeep_alike (name : String) {b b' : ClassBody}
    {parent parent' : Option LoadedClass} (hbody : b.Matches hidden b')
    (hparent : Option.Rel (LoadedClass.Matches hidden) parent parent')
    (hloaded : ∀ name, Option.Rel (LoadedClass.Matches hidden) (cache.get? name)
      (cache'.get? name)) :
    LoadsAlike hidden (linkAndKeep name b parent cache)
      (linkAndKeep name b' parent' cache') := by
  have hlink := LoadedClass.link_matches hbody hparent
  unfold linkAndKeep
  generalize LoadedClass.link b parent = x, LoadedClass.link b' parent' = x' at hlink ⊢
  cases hlink with
  | error e => exact ⟨.error e, hloaded⟩
  | ok hclasses =>
    refine ⟨.ok hclasses, fun other => ?_⟩
    rw [Keyed.get?_insert, Keyed.get?_insert]
    split
    · exact .some hclasses
    · exact hloaded other

/-- Loading from registries that define matching classes. -/
private theorem loadChain_alike {r r' : ClassRegistry} (h : r.Matches hidden r')
    (visiting : List String) (name : String)
    (hloaded : ∀ name, Option.Rel (LoadedClass.Matches hidden) (cache.get? name)
      (cache'.get? name)) :
    LoadsAlike hidden (loadChain r.records visiting name cache)
      (loadChain r'.records visiting name cache') := by
  have hnone {name : String} (hnew : cache.get? name = none) : cache'.get? name = none := by
    have hname := hloaded name
    rw [hnew] at hname
    generalize cache'.get? name = found at hname
    cases hname
    rfl
  -- What a name defines on the left, it defines up to hidden methods on the right.
  have hdefines {name : String} {b : ClassBody} (hbody : definition r.records name = .ok b) :
      ∃ b', definition r'.records name = .ok b' ∧ b.Matches hidden b' := by
    have hdefined := h.definition name
    rw [hbody] at hdefined
    generalize definition r'.records name = defined at hdefined
    cases hdefined with
    | ok hmatches => exact ⟨_, rfl, hmatches⟩
  fun_induction loadChain r.records visiting name cache with
  | case1 visiting name c hcached =>
    have hname := hloaded name
    rw [hcached] at hname
    rw [loadChain]
    generalize cache'.get? name = found at hname
    cases hname with
    | some hclasses => exact ⟨.ok hclasses, hloaded⟩
  | case2 visiting name hnew hmet =>
    rw [loadChain]
    simp only [hnone hnew, hmet, dite_true]
    exact ⟨.error _, hloaded⟩
  | case3 visiting name hnew hmet e hbody =>
    have hdefined := h.definition name
    rw [loadChain_new (hnone hnew) (by simpa using hmet)]
    rw [hbody] at hdefined
    generalize definition r'.records name = defined at hdefined
    cases hdefined
    exact ⟨.error e, hloaded⟩
  | case4 visiting name hnew hmet b hbody last hroot =>
    obtain ⟨b', hbody', hmatches⟩ := hdefines hbody
    rw [hmatches.superName, h.contains] at hroot
    rw [loadChain_new (hnone hnew) (by simpa using hmet)]
    simp only [hbody', hroot]
    exact linkAndKeep_alike name hmatches .none hloaded
  | case5 visiting name hnew hmet b hbody superName hsuper e cache₁ hrun ih =>
    obtain ⟨b', hbody', hmatches⟩ := hdefines hbody
    rw [hmatches.superName, h.contains] at hsuper
    rw [loadChain_new (hnone hnew) (by simpa using hmet)]
    simp only [hbody', hsuper]
    rw [hrun] at ih
    obtain ⟨hanswer, hcache⟩ := ih
    cases hrun' : loadChain r'.records (name :: visiting) superName cache' with
    | mk result cache₁' =>
      rw [hrun'] at hanswer hcache
      cases hanswer
      exact ⟨.error e, hcache⟩
  | case6 visiting name hnew hmet b hbody last superName hsuper parent cache₁ hrun ih =>
    obtain ⟨b', hbody', hmatches⟩ := hdefines hbody
    rw [hmatches.superName, h.contains] at hsuper
    rw [loadChain_new (hnone hnew) (by simpa using hmet)]
    simp only [hbody', hsuper]
    rw [hrun] at ih
    obtain ⟨hanswer, hcache⟩ := ih
    cases hrun' : loadChain r'.records (name :: visiting) superName cache' with
    | mk result cache₁' =>
      rw [hrun'] at hanswer hcache
      cases hanswer with
      | ok hparent => exact linkAndKeep_alike name hmatches (.some hparent) hcache

variable {r r' : ClassRegistry}

/-- Loading a name answers matching classes or fails alike, and the registries still match. -/
theorem Matches.load (h : r.Matches hidden r') (name : String) :
    Checked.Alike (LoadedClass.Matches hidden) (r.load name).1 (r'.load name).1 ∧
      (r.load name).2.Matches hidden (r'.load name).2 := by
  obtain ⟨hanswer, hloaded⟩ := loadChain_alike h [] name h.loaded
  exact ⟨hanswer, h.contains, h.definition, hloaded, h.annotations⟩

end ClassRegistry

end EntityForge
