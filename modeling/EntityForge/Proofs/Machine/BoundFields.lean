import EntityForge.Proofs.Machine.HeapTyping
import EntityForge.Proofs.Registry.Ancestors

/-!
Bound fields. A handle of a field reads and writes one slot: the one that the name of the field
finds in the class that was bound, which every object of this class or of one linked behind it has
in the same place. Code that names the field finds it in the class of the object, and so it finds
the same slot unless a class further down declares the field again.
-/

namespace EntityForge

open Run (Progress)

namespace Machine

variable {m m' : Machine}

theorem Evolves.later (h : m.Evolves m') : m.registry.Later m'.registry := by
  induction h with
  | refl => exact .refl _
  | tail _ hacts ih =>
    cases hacts with
    | load name => exact ih.trans (ClassRegistry.load_later _ name)
    | _ => exact ih

/-- No object changes its class. -/
theorem Evolves.classOf (h : m.Evolves m') {id : Nat} (hid : id < m.heap.size) :
    id < m'.heap.size ∧ m'.classOf id = m.classOf id := by
  induction h with
  | refl => exact ⟨hid, rfl⟩
  | @tail m₁ _ _ hacts ih =>
    obtain ⟨hbound, hclass⟩ := ih
    cases hacts with
    | load | number => exact ⟨hbound, hclass⟩
    | @create _ c hloaded =>
      have hgrows : m₁.Grows (m₁.allocated m₁.registry c) := allocated_grows (.refl _) c
      exact ⟨Nat.lt_of_lt_of_le hbound hgrows.size, (hgrows.classOf hbound).trans hclass⟩
    | store => exact ⟨by rwa [put_size], by rw [classOf_put, hclass]⟩

theorem HeapTyped.closed (h : m.HeapTyped) (hclosed : ClassRegistry.Closed m.registry.loaded)
    (hevolves : m.Evolves m') : ClassRegistry.Closed m'.registry.loaded := by
  induction hevolves with
  | refl => exact hclosed
  | tail hbefore hacts ih =>
    cases hacts with
    | load name => exact ClassRegistry.loadChain_closed (h.evolves hbefore).loaded ih [] name
    | _ => exact ih

/-- A class above that of an object is the one that is loaded under its name. -/
theorem HeapTyped.loaded_above (h : m.HeapTyped)
    (hclosed : ClassRegistry.Closed m.registry.loaded) {id : Nat} (hid : id < m.heap.size)
    {a : LoadedClass} {below : List ClassBody} (habove : a.Above below (m.classOf id)) :
    m.registry.loaded.get? a.name = some a :=
  hclosed.above habove (h.type id hid) rfl

/-- A handle reads and writes exactly one slot of an object, which has the type of a field. -/
structure Reaches (m : Machine) (h : MemberHandle) (id slot : Nat) (field : FieldSlot) : Prop where
  get : ∃ v, (m.object id).fields[slot]? = some v ∧ (Run.handleGet h id).on m = (.ok v, m)
  set : ∀ v, m.fits v field.type = true → (Run.handleSet h id v).on m = (.ok (), m.put id slot v)
  refuse : ∀ v, m.fits v field.type = false → (Run.handleSet h id v).on m =
    (.error (.cannotStore v.kindName (m.classOf id).name field.name field.type), m)

/-- The instructions that name a field do what the handle does. -/
structure FollowsHandle (m : Machine) (h : MemberHandle) (id : Nat) (className name : String) :
    Prop where
  get : ∀ callee type (f : Frame),
    (Run.step callee type (f.push (.object id)) (.getField className name)).on m =
      (((Run.handleGet h id).on m).1.map fun v => .running (f.push v),
        ((Run.handleGet h id).on m).2)
  put : ∀ callee type (f : Frame) v,
    (Run.step callee type ((f.push (.object id)).push v) (.putField className name)).on m =
      (((Run.handleSet h id v).on m).1.map fun _ => .running f, ((Run.handleSet h id v).on m).2)

section Handles

variable {h : MemberHandle} {id slot : Nat} {field : FieldSlot} {t : TypeTree}

/-- A handle of a slot that an object has, of a class that it is an instance of. -/
theorem HeapTyped.reaches (hm : m.HeapTyped) (hid : id < m.heap.size)
    (htarget : h.target = .field slot t) (hreceiver : m.isInstance id h.className = true)
    (hfield : (m.classOf id).slots[slot]? = some field) : m.Reaches h id slot field := by
  have hbound := (List.getElem?_eq_some_iff.mp hfield).1
  have hroom : slot < (m.object id).fields.length := (hm.fields id hid).length_eq ▸ hbound
  have hvalue := List.getElem?_eq_getElem hroom
  refine ⟨⟨_, hvalue, Run.handleGetWith_on htarget hreceiver hvalue⟩, fun v hfits => ?_,
    fun v hmisfit => ?_⟩
  · exact Run.handleSetWith_on htarget hreceiver hfield hroom hfits
  · rw [Run.handleSet, Run.handleSetWith, Run.on_bind_ok (Run.checkReceiver_on hreceiver), htarget]
    show (Run.store id slot v).on m = _
    simp only [Run.store, Run.on_get_bind, hfield, hmisfit, Bool.false_eq_true, if_false,
      Run.on_throw]

/-- A name that finds the slot of a handle. -/
theorem follows {className name : String} (htarget : h.target = .field slot t)
    (hreceiver : m.isInstance id h.className = true) (hinstance : m.isInstance id className = true)
    (hslot : (m.classOf id).slot? name = some slot) : m.FollowsHandle h id className name := by
  have hfound := Run.fieldSlot_on hslot
  constructor
  · intro callee type f
    have hpop : (f.push (.object id)).popObject = .ok (id, f) := rfl
    have hhandle : (Run.handleGet h id).on m = (Run.read id slot).on m := by
      rw [Run.handleGet, Run.handleGetWith, Run.on_bind_ok (Run.checkReceiver_on hreceiver),
        htarget]
    have hname : (Run.getField id name).on m = (Run.read id slot).on m := by
      rw [Run.getField, Run.on_bind_ok hfound]
    simp only [Run.step, hpop, Run.on_lift_bind_ok]
    rw [Run.on_bind_ok (Run.checkInstance_on hinstance), Run.on_bind_pure, hname, hhandle]
  · intro callee type f v
    have hpop : ((f.push (.object id)).push v).pop = .ok (v, f.push (.object id)) := rfl
    have hpop' : (f.push (.object id)).popObject = .ok (id, f) := rfl
    have hhandle : (Run.handleSet h id v).on m = (Run.store id slot v).on m := by
      rw [Run.handleSet, Run.handleSetWith, Run.on_bind_ok (Run.checkReceiver_on hreceiver),
        htarget]
    have hname : (Run.setField id name v).on m = (Run.store id slot v).on m := by
      rw [Run.setField, Run.on_bind_ok hfound]
    simp only [Run.step, hpop, hpop', Run.on_lift_bind_ok]
    rw [Run.on_bind_ok (Run.checkInstance_on hinstance), Run.on_bind_pure, hname, hhandle]

end Handles

/-- Binding a field that a loaded class has. -/
theorem resolveField_binds {className name : String} {h : MemberHandle}
    (hbound : (Run.resolveField className name).on m = (.ok h, m')) :
    ∃ c slot field, m'.registry.loaded.get? className = some c ∧ c.slot? name = some slot ∧
      c.slots[slot]? = some field ∧ h.className = c.name ∧ h.target = .field slot field.type := by
  obtain ⟨c, m₁, hload, hbind⟩ := Run.on_bind_eq_ok hbound
  have hloaded := Run.load_keeps hload
  cases hslot : c.slot? name with
  | none =>
    rw [hslot] at hbind
    cases hbind
  | some slot =>
    obtain ⟨field, hfield, _⟩ := LoadedClass.slot?_some hslot
    simp only [hslot, hfield] at hbind
    cases hbind
    exact ⟨c, slot, field, hloaded, hslot, hfield, rfl, rfl⟩

/-- A handle that was bound to a field keeps to the slot which the name of the field finds in the
class that was bound, the slot of a field that this class or one above it declares: on every object
of the class or of one linked behind it, after whatever calls, it reads this slot and writes
nothing else. Instructions that name the field do the same as the handle, unless a class further
down declares a field of this name again. Nothing is said of objects that pass for the class only
because a class of theirs names it as an interface, or as a superclass that is not linked. -/
theorem bound_field {r : ClassRegistry} (hreach : r.Reachable) (before later : List MachineCall)
    {className name : String} {h : MemberHandle}
    (hbound : (Run.resolveField className name).on (({ registry := r } : Machine).after before) =
      (.ok h, m)) :
    ∃ c slot field, m.registry.loaded.get? className = some c ∧ c.slot? name = some slot ∧
      c.slots[slot]? = some field ∧
      (∃ b ∈ c.bodies, ∃ f ∈ LoadedClass.instanceFields b, f.name = name ∧
        LoadedClass.slotOf b.name f = .ok field) ∧
      ∀ id < (m.after later).heap.size, ∀ (a : LoadedClass) below,
        a.Above below ((m.after later).classOf id) → a.name = className →
        (m.after later).Reaches h id slot field ∧
        (¬ LoadedClass.Declares below name →
          (m.after later).FollowsHandle h id className name) := by
  obtain ⟨c, slot, field, hloaded, hslot, hfield, hclass, htarget⟩ := resolveField_binds hbound
  have hevolves : ({ registry := r } : Machine).Evolves m := by
    have hbinds := Run.resolveField_acting className name
      (({ registry := r } : Machine).after before)
    rw [hbound] at hbinds
    exact (after_evolves _ before).trans hbinds
  have hlater := after_evolves m later
  have htyped : m.HeapTyped := (heap_typed hreach []).1.evolves hevolves
  have htyped' := htyped.evolves hlater
  have hclosed := (heap_typed hreach []).1.closed hreach.closed (hevolves.trans hlater)
  obtain ⟨hlinked, hname⟩ := htyped.loaded className c hloaded
  refine ⟨c, slot, field, hloaded, hslot, hfield, hlinked.field hslot hfield, ?_⟩
  intro id hid a below habove hnamed
  -- The class above the object is the one that was bound.
  have hsame : a = c := by
    have hstill := hlater.later.loaded.keeps _ _ hloaded
    have hfound := htyped'.loaded_above hclosed hid habove
    rw [hnamed] at hfound
    exact Option.some.inj (hfound.symm.trans hstill)
  subst hsame
  have hinstance : (m.after later).isInstance id a.name = true := habove.isSubclassOf
  have hobject := htyped'.linked hid
  refine ⟨htyped'.reaches hid htarget (hclass ▸ hinstance) (habove.slot_at hobject hfield), ?_⟩
  intro hdeclares
  exact follows htarget (hclass ▸ hinstance) (hnamed ▸ hinstance)
    (habove.slot?_eq hobject hdeclares ▸ hslot)

end Machine

/-- Classes of different names can be registered where nothing is. -/
theorem ClassRegistry.stores_new (annotations : AnnotationRegistry) {classes : List ClassBody}
    (hlimited : ∀ b ∈ classes, b.Limited) (hnames : (classes.map (·.name)).Nodup) :
    ∃ r : ClassRegistry, r.Reachable ∧ r.loaded = [] ∧ ∀ b ∈ classes, Stores r.records b := by
  obtain ⟨batch, hbatch⟩ := Checked.mapM_ok fun b hb => ClassBody.record_ok (hlimited b hb)
  have hencodes := (Checked.mapM_eq_ok.mp hbatch).imp fun _ _ => ClassBody.record_encodes
  have hbatchNames : batch.map (·.name) = classes.map (·.name) := by
    rw [← List.forall₂_eq_eq_eq, List.forall₂_map_left_iff, List.forall₂_map_right_iff]
    exact hencodes.flip.imp fun _ _ hrecord => hrecord.name
  rw [← hbatchNames] at hnames
  obtain ⟨outcomes, r, hregister⟩ :=
    registerAll_new (r := { annotations }) hnames fun _ _ => rfl
  refine ⟨r, (Reachable.new annotations).registerAll hregister, ?_, fun b hb => ?_⟩
  · rw [(registerAll_keeps hregister).2.1]
  · obtain ⟨record, hrecord, hencode⟩ := Checked.forall₂_mem_left hencodes hb
    obtain ⟨stored, hstored, hbytes⟩ := registerAll_stores hregister
      (digestsSeparate_new hnames fun _ _ => rfl) hrecord
    exact ⟨stored, hencode.name ▸ hstored, hbytes ▸ hencode.bytes⟩

/-! A class, a class that extends it and declares one of its fields again, and a class that names it
as an interface only. -/

namespace Redeclared

def number (name : String) (initial : Int32) : FieldDef :=
  { name, descriptor := "I", flags := AccessFlag.isPublic, initial := some (.int initial) }

def numberSlot (owner name : String) (initial : Int32) : FieldSlot :=
  { owner, name, type := .ofPrimitive .int, flags := AccessFlag.isPublic, initial := .int initial }

def base : ClassBody :=
  { name := "app.Base", kind := .entity, fields := [number "count" 1, number "limit" 3] }

def heir : ClassBody :=
  { name := "app.Heir", kind := .entity, superName := some "app.Base",
    fields := [number "count" 2] }

def guest : ClassBody :=
  { name := "app.Guest", kind := .entity, interfaces := ["app.Base"], fields := [number "mark" 7] }

def baseClass : LoadedClass :=
  ⟨base, none, [numberSlot "app.Base" "count" 1, numberSlot "app.Base" "limit" 3]⟩

def heirClass : LoadedClass :=
  ⟨heir, some baseClass, baseClass.slots ++ [numberSlot "app.Heir" "count" 2]⟩

def guestClass : LoadedClass := ⟨guest, none, [numberSlot "app.Guest" "mark" 7]⟩

theorem slotOf_number (owner name : String) (initial : Int32) :
    LoadedClass.slotOf owner (number name initial) = .ok (numberSlot owner name initial) := by
  unfold LoadedClass.slotOf number
  rw [Signature.parseType_int]
  rfl

/-- The three classes can be registered, and they load. -/
theorem registry_exists :
    ∃ r : ClassRegistry, r.Reachable ∧ r.Links "app.Base" baseClass ∧
      r.Links "app.Heir" heirClass ∧ r.Links "app.Guest" guestClass := by
  have hlimited : ∀ b ∈ [base, heir, guest], b.Limited := by decide +kernel
  have hwell : ∀ b ∈ [base, heir, guest], b.WellFormed := by decide +kernel
  obtain ⟨r, hreach, hloaded, hstores⟩ :=
    ClassRegistry.stores_new .builtin hlimited (by decide)
  have hnew (name : String) : r.loaded.get? name = none := by
    rw [hloaded]
    rfl
  have hbase : r.Links base.name baseClass :=
    (hstores base (by simp)).links_alone (hwell base (by simp))
      (Checked.mapM_eq_ok.mpr (.cons (slotOf_number _ _ _) (.cons (slotOf_number _ _ _) .nil)))
      rfl (hnew _)
  have hregistered : r.records.contains base.name = true := by
    obtain ⟨record, hrecord, _⟩ := hstores base (by simp)
    rw [Keyed.contains, hrecord]
    rfl
  refine ⟨r, hreach, hbase, ?_, ?_⟩
  · refine (hstores heir (by simp)).links_behind (hwell heir (by simp))
      (Checked.mapM_eq_ok.mpr (.cons (slotOf_number _ _ _) .nil)) ?_ hbase (hnew _)
    exact Option.filter_eq_some_iff.mpr ⟨rfl, hregistered⟩
  · exact (hstores guest (by simp)).links_alone (hwell guest (by simp))
      (Checked.mapM_eq_ok.mpr (.cons (slotOf_number _ _ _) .nil)) rfl (hnew _)

/-- An object of each of the two other classes. -/
def calls : List MachineCall :=
  [.instantiate "app.Heir" Construction.plain [], .instantiate "app.Guest" Construction.plain []]

/-- The objects are made, and fields of the first class can be bound. -/
theorem objects_exist {r : ClassRegistry} (hbase : r.Links "app.Base" baseClass)
    (hheir : r.Links "app.Heir" heirClass) (hguest : r.Links "app.Guest" guestClass)
    (name : String) (slot : Nat) {field : FieldSlot} (hslot : baseClass.slot? name = some slot)
    (hfield : baseClass.slots[slot]? = some field) :
    ∃ h m, (Run.resolveField "app.Base" name).on (({ registry := r } : Machine).after calls) =
        (.ok h, m) ∧
      h.target = .field slot field.type ∧ h.className = "app.Base" ∧
      m.heap = #[⟨heirClass, heirClass.initialFields⟩, ⟨guestClass, guestClass.initialFields⟩] := by
  have hidle {m : Machine} {name : String} {c : LoadedClass} (hlinks : m.registry.Links name c)
      (hnone : c.declaredMethod? Construction.name Construction.plain = none) :
      ∃ r', m.registry.Later r' ∧
        MachineCall.after m (.instantiate name Construction.plain []) = m.allocated r' c := by
    obtain ⟨r', hlater, _, _, hmade⟩ := Run.constructWith_on (Run.execute maxCallDepth)
      Construction.plain [] hlinks
    exact ⟨r', hlater, congrArg Prod.snd (hmade hnone rfl rfl)⟩
  obtain ⟨r₁, hlater₁, hfirst⟩ := hidle (m := { registry := r }) hheir rfl
  have hguest₁ := hlater₁.links_iff.mpr hguest
  obtain ⟨r₂, hlater₂, hsecond⟩ :=
    hidle (m := ({ registry := r } : Machine).allocated r₁ heirClass) hguest₁ rfl
  have hcalls : ({ registry := r } : Machine).after calls =
      (({ registry := r } : Machine).allocated r₁ heirClass).allocated r₂ guestClass := by
    rw [Machine.after, calls, List.foldl_cons, List.foldl_cons, hfirst, hsecond]
    rfl
  have hbase₂ := hlater₂.links_iff.mpr (hlater₁.links_iff.mpr hbase)
  obtain ⟨r₃, h, _, hbinds, hbound⟩ := Run.resolveField_on
    (m := (({ registry := r } : Machine).allocated r₁ heirClass).allocated r₂ guestClass)
    hbase₂ hslot hfield
  rw [hcalls]
  exact ⟨h, _, hbound, hbinds.target, hbinds.className, rfl⟩

theorem base_above : baseClass.Above [heir] heirClass :=
  .child (show heirClass.superclass = some baseClass from rfl) .self

end Redeclared

namespace Machine

open Redeclared

/-- A field that is inherited and not declared again: on an object of the extending class the handle
and the name lead to one slot. -/
theorem bound_field_inherited :
    ∃ r h m, r.Reachable ∧
      (Run.resolveField "app.Base" "limit").on (({ registry := r } : Machine).after calls) =
        (.ok h, m) ∧
      (m.classOf 0).name = "app.Heir" ∧ (Run.handleGet h 0).on m = (.ok (.int 3), m) ∧
      m.FollowsHandle h 0 "app.Base" "limit" := by
  obtain ⟨r, hreach, hbase, hheir, hguest⟩ := registry_exists
  obtain ⟨h, m, hbound, htarget, hclass, hheap⟩ :=
    objects_exist hbase hheir hguest "limit" 1 rfl rfl
  have hobject : m.object 0 = ⟨heirClass, heirClass.initialFields⟩ := by
    rw [object, hheap]
    rfl
  have htype : m.classOf 0 = heirClass := congrArg Instance.type hobject
  have habove : baseClass.Above [heir] ((m.after []).classOf 0) := htype.symm ▸ base_above
  have hbound' : 0 < (m.after []).heap.size := by
    show 0 < m.heap.size
    rw [hheap]
    decide
  obtain ⟨c, slot, field, _, _, _, _, haccess⟩ := bound_field hreach calls [] hbound
  have hfollows := (haccess 0 hbound' baseClass [heir] habove rfl).2 (by
    rintro ⟨b, hb, f, hf, hname⟩
    obtain rfl := List.mem_singleton.mp hb
    obtain rfl := List.mem_singleton.mp hf
    exact absurd hname (by decide))
  have hinstance : m.isInstance 0 h.className = true := by
    rw [isInstance, htype, hclass]
    rfl
  exact ⟨r, h, m, hreach, hbound, congrArg LoadedClass.name htype,
    Run.handleGetWith_on htarget hinstance (by rw [hobject]; rfl), hfollows⟩

/-- A handle does not follow what its name finds in another class. Where the extending class
declares the field again, the handle reads the field of the class that was bound, and code that
names it the other one; where a class only names the bound one as an interface, the handle reads a
field of its own that has nothing to do with the name, and code that names the field finds none. -/
theorem bound_field_redeclared :
    ∃ r h m, r.Reachable ∧
      (Run.resolveField "app.Base" "count").on (({ registry := r } : Machine).after calls) =
        (.ok h, m) ∧
      m.isInstance 0 "app.Base" = true ∧ (Run.handleGet h 0).on m = (.ok (.int 1), m) ∧
      (∀ callee type (f : Frame),
        (Run.step callee type (f.push (.object 0)) (.getField "app.Base" "count")).on m =
          (.ok (.running (f.push (.int 2))), m)) ∧
      m.isInstance 1 "app.Base" = true ∧ (Run.handleGet h 1).on m = (.ok (.int 7), m) ∧
      ∀ callee type (f : Frame),
        (Run.step callee type (f.push (.object 1)) (.getField "app.Base" "count")).on m =
          (.error (.noField "count" "app.Guest"), m) := by
  obtain ⟨r, hreach, hbase, hheir, hguest⟩ := registry_exists
  obtain ⟨h, m, hbound, htarget, hclass, hheap⟩ :=
    objects_exist hbase hheir hguest "count" 0 rfl rfl
  have hfirst : m.object 0 = ⟨heirClass, heirClass.initialFields⟩ := by
    rw [object, hheap]
    rfl
  have hsecond : m.object 1 = ⟨guestClass, guestClass.initialFields⟩ := by
    rw [object, hheap]
    rfl
  have htype : m.classOf 0 = heirClass := congrArg Instance.type hfirst
  have htype' : m.classOf 1 = guestClass := congrArg Instance.type hsecond
  have hinstance : m.isInstance 0 "app.Base" = true := by
    rw [isInstance, htype]
    rfl
  have hinstance' : m.isInstance 1 "app.Base" = true := by
    rw [isInstance, htype']
    rfl
  refine ⟨r, h, m, hreach, hbound, hinstance,
    Run.handleGetWith_on htarget (hclass ▸ hinstance) (by rw [hfirst]; rfl), ?_, hinstance',
    Run.handleGetWith_on htarget (hclass ▸ hinstance') (by rw [hsecond]; rfl), ?_⟩
  · intro callee type f
    refine Run.step_getField hinstance ?_
    rw [field?, htype, hfirst]
    rfl
  · intro callee type f
    have hpop : (f.push (.object 1)).popObject = .ok (1, f) := rfl
    have hnone : (m.classOf 1).slot? "count" = none := by
      rw [htype']
      rfl
    have hget : (Run.getField 1 "count").on m = (.error (.noField "count" "app.Guest"), m) := by
      rw [Run.getField, Run.on_bind_error (Run.fieldSlot_none hnone), htype']
      rfl
    simp only [Run.step, hpop, Run.on_lift_bind_ok]
    rw [Run.on_bind_ok (Run.checkInstance_on hinstance'), Run.on_bind_error hget]

end Machine

end EntityForge
