import EntityForge.Proofs.Generated.AccessorSession
import EntityForge.Proofs.Machine.Actions
import EntityForge.Proofs.Machine.Running
import EntityForge.Proofs.Registry.Linking
import EntityForge.Proofs.Value.Conformance

/-!
The heap is typed. In every object each slot holds a value that fits its type, whatever classes are
registered and however the objects are used from outside. Each of the four actions of a machine
keeps this, so no run can break it, and none that stops half-way; and every method that is called
answers what its descriptor says.
-/

namespace EntityForge

namespace Machine

variable {m m' : Machine}

/-- Every object is one of a loaded class, and in each of its slots stands a value that fits. -/
structure HeapTyped (m : Machine) : Prop where
  loaded : ClassRegistry.AllLinked m.registry.loaded
  type : ∀ id < m.heap.size, m.registry.loaded.get? (m.classOf id).name = some (m.classOf id)
  fields : ∀ id < m.heap.size, List.Forall₂ (fun v (slot : FieldSlot) => m.fits v slot.type = true)
    (m.object id).fields (m.classOf id).slots

namespace HeapTyped

theorem linked (h : m.HeapTyped) {id : Nat} (hid : id < m.heap.size) : (m.classOf id).Linked :=
  (h.loaded _ _ (h.type id hid)).1

/-- Loading further classes. -/
theorem later (h : m.HeapTyped) {r : ClassRegistry} (hlater : m.registry.Later r) :
    ({ m with registry := r } : Machine).HeapTyped where
  loaded := hlater.allLinked h.loaded
  type id hid := hlater.loaded.keeps _ _ (h.type id hid)
  fields := h.fields

/-- What fits still fits when there is one more object: where there is no object yet, no class that
a type could name has an instance. -/
theorem fits_allocated (r : ClassRegistry) (c : LoadedClass) {t : TypeTree} (ht : t.Denotable)
    {v : Value} (hv : m.fits v t = true) : (m.allocated r c).fits v t = true := by
  refine Value.fits_mono ?_ ht hv
  intro id name hname hinstance
  by_cases hid : id < m.heap.size
  · have hclass : (m.allocated r c).classOf id = m.classOf id := by
      unfold Machine.classOf allocated
      rw [Array.getElem?_push_lt hid, Array.getElem?_eq_getElem hid]
    rw [isInstance, hclass]
    exact hinstance
  · rw [isInstance, classOf_none m id (Nat.le_of_not_lt hid)] at hinstance
    have hempty : name = "" := by
      simp [default, LoadedClass.isSubclassOf] at hinstance
      exact hinstance
    exact absurd hempty hname

/-- Making an object of a loaded class. -/
theorem create (h : m.HeapTyped) {name : String} {c : LoadedClass}
    (hloaded : m.registry.loaded.get? name = some c) :
    (m.allocated m.registry c).HeapTyped := by
  obtain ⟨hlinked, hname⟩ := h.loaded name c hloaded
  have hgrows : m.Grows (m.allocated m.registry c) := allocated_grows (.refl _) c
  have hcases : ∀ id < (m.allocated m.registry c).heap.size,
      id < m.heap.size ∨ id = m.heap.size := by
    intro id hid
    rw [allocated_size] at hid
    omega
  refine ⟨h.loaded, ?_, ?_⟩
  · intro id hid
    rcases hcases id hid with hold | rfl
    · rw [hgrows.classOf hold]
      exact h.type id hold
    · rw [classOf_allocated, hname]
      exact hloaded
  · intro id hid
    rcases hcases id hid with hold | rfl
    · rw [hgrows.object id hold, hgrows.classOf hold]
      have hdenotable : ∀ slot ∈ (m.classOf id).slots, slot.type.Denotable :=
        fun slot hslot => ((h.linked hold).slot hslot).1
      have hboth := List.forall₂_and_left _ _ |>.mpr ⟨hdenotable, (h.fields id hold).flip⟩
      refine (hboth.imp fun slot v hslot => ?_).flip
      exact fits_allocated m.registry c hslot.1 hslot.2
    · rw [object_allocated, classOf_allocated]
      exact hlinked.initialFields _

/-- Putting a value that fits into a slot. -/
theorem store (h : m.HeapTyped) {id slot : Nat} {v : Value} {field : FieldSlot}
    (hfield : (m.classOf id).slots[slot]? = some field) (hfits : m.fits v field.type = true) :
    (m.put id slot v).HeapTyped := by
  refine ⟨h.loaded, ?_, ?_⟩
  · intro other hother
    rw [put_size] at hother
    rw [classOf_put, put_registry]
    exact h.type other hother
  · intro other hother
    rw [put_size] at hother
    rw [classOf_put, fits_put]
    by_cases hsame : other = id
    · subst hsame
      rw [object_put_self m other slot v hother]
      exact Checked.forall₂_set (h.fields other hother) hfield hfits
    · rw [object_put_ne m id slot v hsame]
      exact h.fields other hother

/-- Every action keeps the heap typed. -/
theorem acts (h : m.HeapTyped) (hacts : m.Acts m') : m'.HeapTyped := by
  cases hacts with
  | load name => exact h.later (ClassRegistry.load_later m.registry name)
  | create hloaded => exact h.create hloaded
  | store hfield hfits => exact h.store hfield hfits
  | number => exact ⟨h.loaded, h.type, h.fields⟩

theorem evolves (h : m.HeapTyped) (hevolves : m.Evolves m') : m'.HeapTyped := by
  induction hevolves with
  | refl => exact h
  | tail _ hacts ih => exact ih.acts hacts

end HeapTyped

end Machine

inductive MachineCall where
  | instantiate (className descriptor : String) (args : List Value)
  | invoke (receiver : Nat) (name descriptor : String) (args : List Value)
  | getField (id : Nat) (name : String)
  | setField (id : Nat) (name : String) (v : Value)
  | resolveField (className name : String)
  | resolveMethod (className name descriptor : String)
  | handleGet (h : MemberHandle) (id : Nat)
  | handleSet (h : MemberHandle) (id : Nat) (v : Value)

/-- The machine after a call, whether the call answered or failed. -/
def MachineCall.after (m : Machine) : MachineCall → Machine
  | instantiate className descriptor args => ((Run.instantiate className descriptor args).on m).2
  | invoke receiver name descriptor args => ((Run.invoke receiver name descriptor args).on m).2
  | getField id name => ((Run.getField id name).on m).2
  | setField id name v => ((Run.setField id name v).on m).2
  | resolveField className name => ((Run.resolveField className name).on m).2
  | resolveMethod className name descriptor =>
    ((Run.resolveMethod className name descriptor).on m).2
  | handleGet h id => ((Run.handleGet h id).on m).2
  | handleSet h id v => ((Run.handleSet h id v).on m).2

def Machine.after (m : Machine) (calls : List MachineCall) : Machine :=
  calls.foldl MachineCall.after m

open Run in
theorem MachineCall.after_evolves (m : Machine) (call : MachineCall) : m.Evolves (call.after m) := by
  have hexecute := execute_acting
  cases call with
  | instantiate => exact constructWith_acting (hexecute _) _ _ _ m
  | invoke => exact callWith_acting (hexecute _) _ _ _ _ m
  | getField => exact getField_acting _ _ m
  | setField => exact setField_acting _ _ _ m
  | resolveField => exact resolveField_acting _ _ m
  | resolveMethod => exact resolveMethod_acting _ _ _ m
  | handleGet => exact handleGetWith_acting (hexecute _) _ _ m
  | handleSet => exact handleSetWith_acting (hexecute _) _ _ _ m

namespace Machine

variable {m m' : Machine}

theorem after_evolves (m : Machine) (calls : List MachineCall) : m.Evolves (m.after calls) := by
  induction calls generalizing m with
  | nil => exact .refl
  | cons call rest ih => exact (MachineCall.after_evolves m call).trans (ih _)

/-- A call that answers was one of a well-formed method, so it answers what the descriptor says. -/
theorem HeapTyped.call_returns (h : m.HeapTyped) {levels receiver : Nat} {name descriptor : String}
    {args : List Value} {v : Value}
    (hcall : (Run.callWith (Run.execute levels) receiver name descriptor args).on m = (.ok v, m')) :
    ∃ type, MethodType.parse descriptor = .ok type ∧ type.Returns m' v := by
  have hclass : (Run.classOf receiver).on m = (.ok (m.classOf receiver), m) := rfl
  rw [Run.callWith, Run.on_bind_ok hclass] at hcall
  cases hfound : (m.classOf receiver).findMethod? name descriptor with
  | none =>
    rw [hfound] at hcall
    cases hcall
  | some method =>
    rw [hfound] at hcall
    by_cases hreceiver : receiver < m.heap.size
    · obtain ⟨hmethod, _, rfl⟩ := (h.linked hreceiver).method hfound
      exact Run.execute_leaves levels receiver args hmethod m v m' hcall
    · -- Where there is no object, there is no method.
      rw [classOf_none m receiver (Nat.le_of_not_lt hreceiver)] at hfound
      cases hfound

/-- Over any registered bytes and after any calls, the heap is typed, and every further call that
answers does so with what the descriptor says. -/
theorem heap_typed {r : ClassRegistry} (hreach : r.Reachable) (calls : List MachineCall) :
    (({ registry := r } : Machine).after calls).HeapTyped ∧
      ∀ receiver name descriptor args v m',
        (Run.invoke receiver name descriptor args).on
            (({ registry := r } : Machine).after calls) = (.ok v, m') →
          ∃ type, MethodType.parse descriptor = .ok type ∧ type.Returns m' v := by
  have hstart : ({ registry := r } : Machine).HeapTyped := ⟨hreach.allLinked, nofun, nofun⟩
  have htyped := hstart.evolves (after_evolves _ calls)
  exact ⟨htyped, fun _ _ _ _ _ _ hinvoke => htyped.call_returns hinvoke⟩

/-- An object of a class of one field, over the registry of a pass: after a value that does not fit
was refused, its slot holds a value of the type, and the injected reader answers it. -/
theorem heap_typed_counter :
    ∃ r m v, r.Reachable ∧ m = ({ registry := r } : Machine).after
        [.instantiate "app.Counter" Construction.plain [], .setField 0 "a" (.text "no")] ∧
      m.heap.size = 1 ∧ m.HeapTyped ∧
      (Run.invoke 0 (GeneratedName.reader "a") "()I" []).on m = (.ok v, m) ∧
      ∃ type, MethodType.parse "()I" = .ok type ∧ type.Returns m v := by
  have hchecks : Counter.Checks (.selfContained .direct) "app.Counter" none := by decide +kernel
  obtain ⟨generated, r, hgenerate, hentity, hdigests, _, _, hall⟩ := Counter.loads hchecks
  obtain ⟨bodies, body, hinstalls⟩ := Generator.generate_installs (.new .builtin) hdigests hgenerate
  obtain ⟨c, accessorClass, inherited, own, hloads⟩ :=
    hinstalls.loads (hall.mono (Generator.generate_names hgenerate)) (Counter.fieldNames _ _)
  have hdescribes := hinstalls.describes
  have hreach : r.Reachable := Generator.generate_reachable (.new .builtin) hgenerate
  rw [hentity] at hloads hdescribes
  have hp : Counter.property ∈ (Counter.entity "app.Counter").properties := List.mem_singleton_self _
  obtain ⟨m, hmade, _, hsize, hobject⟩ :=
    hloads.instantiate_on (m := { registry := r }) (.refl r)
  obtain ⟨i, field, hbacked, _⟩ := hloads.backed hdescribes (Counter.keepsTypes _ _) hp rfl
  have hfront := hloads.layout.fronted hbacked
  have hclass : m.classOf 0 = c := congrArg Instance.type hobject
  -- The slot of the field holds its initial value, and refuses a text.
  have hvalue : (m.object 0).fields[inherited.length + i]? = some field.initial := by
    have hfields : (m.object 0).fields = c.initialFields := congrArg Instance.fields hobject
    rw [hfields, LoadedClass.initialFields, List.getElem?_map, hloads.layout.slots,
      List.getElem?_append_right (Nat.le_add_right _ _), Nat.add_sub_cancel_left, hbacked.place,
      Option.map_some]
  have hafter : ({ registry := r } : Machine).after
      [.instantiate "app.Counter" Construction.plain [], .setField 0 "a" (.text "no")] = m := by
    have hmade : MachineCall.after { registry := r }
        (.instantiate "app.Counter" Construction.plain []) = m := congrArg Prod.snd hmade
    obtain ⟨slot, hslot, htype⟩ := hfront.field
    have hslots : (m.classOf 0).slots[inherited.length + i]? = some slot := hclass ▸ hslot
    have hrefused : m.fits (.text "no") slot.type = false := by rw [htype]; rfl
    rw [Machine.after, List.foldl_cons, hmade]
    exact congrArg Prod.snd (Run.setField_misfit (hclass ▸ hfront.found) hslots hrefused)
  obtain ⟨htyped, hreturns⟩ := heap_typed hreach
    [.instantiate "app.Counter" Construction.plain [], .setField 0 "a" (.text "no")]
  rw [hafter] at htyped hreturns
  have hfits : m.fits field.initial Counter.property.type = true := by
    have hlinked : (m.classOf 0).Linked := htyped.linked (by rw [hsize]; exact Nat.zero_lt_one)
    have hmem : field ∈ (m.classOf 0).slots := by
      rw [hclass, hloads.layout.slots]
      exact List.mem_append_right _ (List.mem_of_getElem? hbacked.place)
    have hinitial : m.fits field.initial field.type = true := (hlinked.slot hmem).2 _
    rw [hbacked.type] at hinitial
    exact (Value.fits_erased m.isInstance _ _).symm.trans hinitial
  have hread : (Run.invoke 0 (GeneratedName.reader "a") "()I" []).on m =
      (.ok field.initial, m) := by
    have hreader : (m.classOf 0).findMethod? (GeneratedName.reader "a") "()I" = some _ :=
      LoadedClass.findMethod?_own (hclass ▸ hloads.body ▸
        GenerationMode.reader_found rfl (Counter.spares _ _ _) hp)
    have hname : c.name = "app.Counter" := hloads.name hdescribes.name
    rw [Run.invoke, Run.callWith_on hreader]
    exact hname ▸ hfront.read_on hclass hvalue hfits
  exact ⟨r, m, field.initial, hreach, hafter.symm, hsize, htyped, hread,
    hreturns _ _ _ _ _ _ hread⟩

end Machine

end EntityForge
