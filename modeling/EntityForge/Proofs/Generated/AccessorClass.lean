import EntityForge.Proofs.Generated.Access
import EntityForge.Proofs.Machine.Construction

/-!
Making accessors. An accessor that calls the injected methods is made without any work; one that
goes through handles binds them in its constructor. Either way the new object reaches its property
in every object of the entity.
-/

namespace EntityForge

open Run

variable {m : Machine}

namespace Run

/-- A constructor without code but its return leaves the machine as it is. -/
theorem execute_idle (levels : Nat) {self : Nat} {method : MethodDef}
    (hdescriptor : method.descriptor = Construction.plain) (hcode : method.code = [.returnVoid]) :
    (execute (levels + 1) self method []).on m = (.ok .null, m) := by
  refine execute_on (hdescriptor ▸ MethodType.parse_plain) .nil ?_
  rw [hcode]
  exact .finish step_returnVoid

/-- An object of a class whose constructor does nothing. -/
theorem constructWith_idle (levels : Nat) {c : LoadedClass} {className : String}
    (hlinks : m.registry.Links className c)
    (hidle : ∀ method, c.declaredMethod? Construction.name Construction.plain = some method →
      method.descriptor = Construction.plain ∧ method.code = [.returnVoid]) :
    ∃ r, m.registry.Later r ∧
      (constructWith (execute (levels + 1)) className Construction.plain []).on m =
        (.ok m.heap.size, m.allocated r c) := by
  obtain ⟨r, hlater, _, hsome, hnone⟩ :=
    constructWith_on (execute (levels + 1)) Construction.plain [] hlinks
  refine ⟨r, hlater, ?_⟩
  cases hdeclared : c.declaredMethod? Construction.name Construction.plain with
  | none => exact hnone hdeclared rfl rfl
  | some method =>
    obtain ⟨hdescriptor, hcode⟩ := hidle method hdeclared
    exact hsome method .null _ hdeclared (execute_idle levels hdescriptor hcode)

end Run

namespace AccessorShape

variable {s : AccessorShape}

/-! What the names of the members find. -/

theorem callingBody_members :
    s.callingBody.method? Construction.name Construction.plain =
        some (constructor Construction.plain [.returnVoid]) ∧
      s.callingBody.method? AccessorMember.get.name AccessorMember.get.descriptor =
        some (member AccessorMember.get s.callReader) ∧
      s.callingBody.method? AccessorMember.set.name AccessorMember.set.descriptor =
        some (member AccessorMember.set s.callWriter) := ⟨rfl, rfl, rfl⟩

theorem resolvingBody_members :
    s.resolvingBody.method? Construction.name Construction.plain =
        some (constructor Construction.plain (s.bindCode ++ [.returnVoid])) ∧
      s.resolvingBody.method? AccessorMember.get.name AccessorMember.get.descriptor =
        some (member AccessorMember.get s.readHandle) ∧
      s.resolvingBody.method? AccessorMember.set.name AccessorMember.set.descriptor =
        some (member AccessorMember.set s.writeHandle) := ⟨rfl, rfl, rfl⟩

abbrev Loaded (s : AccessorShape) (backend : Backend) (c : LoadedClass) : Prop :=
  c.Fronts (backend.accessorBody s)

variable {backend : Backend} {accessor entity : LoadedClass} {slot : Nat}

theorem Loaded.className (h : s.Loaded backend accessor) : accessor.name = s.className :=
  (LoadedClass.Fronts.name h).trans (Backend.accessorBody_name _ _)

/-- An accessor that goes through handles. -/
theorem Loaded.resolves (h : s.Loaded backend accessor)
    (hresolves : backend.needsAugmentation = false) : accessor.Fronts s.resolvingBody := by
  rwa [Loaded, Backend.accessorBody, hresolves, if_neg Bool.false_ne_true] at h

/-- An accessor implements the interface of accessors. -/
theorem Loaded.isAccessor (h : s.Loaded backend accessor) :
    accessor.isSubclassOf ClassName.accessor = true := by
  refine LoadedClass.isSubclassOf_interface ?_
  rw [h.body]
  unfold Backend.accessorBody
  split <;> exact List.mem_singleton.mpr rfl

def handleType : TypeTree := .ofClass "critter.mapping.MemberHandle"

/-- The field for a handle holds handles. -/
theorem handleField_found {name : String} (h : accessor.Fronts s.resolvingBody)
    (hname : handleField name ∈ s.handleFields) : accessor.HasField name handleType := by
  have hfields : LoadedClass.instanceFields s.resolvingBody = s.handleFields := by
    unfold resolvingBody handleFields
    cases s.property.access <;> rfl
  have hnames : (s.handleFields.map (·.name)).Nodup := by
    unfold handleFields
    cases s.property.access with
    | field => exact (by decide : [fieldHandle].Nodup)
    | method => exact (by decide : [getterHandle, setterHandle].Nodup)
  exact h.hasField (f := handleField name) (hfields ▸ hnames) (hfields ▸ hname)
    Signature.parseType_handle

/-- The accessor that stands for a new object of its class. -/
theorem Loaded.ofClass_on {m' : Machine} (h : s.Loaded backend accessor)
    (hmade : (constructWith (execute maxCallDepth) s.className Construction.plain []).on m =
      (.ok m.heap.size, m')) (hclass : m'.classOf m.heap.size = accessor) :
    (Accessor.ofClass s.className).on m = (.ok (.generated m.heap.size), m') := by
  have hread : (Run.classOf m.heap.size).on m' = (.ok accessor, m') := by
    rw [← hclass]
    rfl
  have hobject : (Accessor.ofObject m.heap.size).on m' = (.ok (.generated m.heap.size), m') := by
    rw [Accessor.ofObject, on_bind_ok hread, if_pos h.isAccessor]
    rfl
  exact (on_bind_ok hmade).trans hobject

/-- An accessor that calls the injected methods. -/
theorem Loaded.calls (h : s.Loaded backend accessor) (hcalls : backend.needsAugmentation = true) :
    accessor.Fronts s.callingBody := by
  rwa [Loaded, Backend.accessorBody, hcalls, if_pos rfl] at h

/-- An accessor that calls the injected methods has nothing to do in its constructor. -/
theorem Loaded.make_idle (h : s.Loaded backend accessor) (levels : Nat)
    (hcalls : backend.needsAugmentation = true) (hlinks : m.registry.Links s.className accessor) :
    ∃ r, m.registry.Later r ∧
      (constructWith (execute (levels + 1)) s.className Construction.plain []).on m =
        (.ok m.heap.size, m.allocated r accessor) := by
  obtain ⟨hconstructor, _, _⟩ := (h.calls hcalls).body ▸ s.callingBody_members
  exact constructWith_idle levels hlinks fun method hdeclared =>
    Option.some.inj (hconstructor.symm.trans hdeclared) ▸ ⟨rfl, rfl⟩

/-- An accessor that calls the injected methods is made. -/
theorem Loaded.make_calling (h : s.Loaded backend accessor) (levels slot : Nat)
    (hcalls : backend.needsAugmentation = true) (hlinks : m.registry.Links s.className accessor)
    (hreader : entity.findMethod? (GeneratedName.reader s.property.name)
      ("()" ++ s.property.type.erasedDescriptor) =
      some (.ofCode (GeneratedName.reader s.property.name)
        ("()" ++ s.property.type.erasedDescriptor) ClassMeta.injectedFlags
        (ClassMeta.readCode entity.name s.property.name)))
    (hwriter : entity.findMethod? (GeneratedName.writer s.property.name)
      ("(" ++ s.property.type.erasedDescriptor ++ ")V") =
      some (.ofCode (GeneratedName.writer s.property.name)
        ("(" ++ s.property.type.erasedDescriptor ++ ")V") ClassMeta.injectedFlags
        (ClassMeta.writeCode entity.name s.property.name))) :
    ∃ r, m.registry.Later r ∧
      (constructWith (execute (levels + 1)) s.className Construction.plain []).on m =
        (.ok m.heap.size, m.allocated r accessor) ∧
      s.Serves entity slot (m.allocated r accessor) m.heap.size := by
  obtain ⟨_, hget, hset⟩ := (h.calls hcalls).body ▸ s.callingBody_members
  obtain ⟨r, hlater, hmade⟩ := h.make_idle levels hcalls hlinks
  refine ⟨r, hlater, hmade, .calling ?_ ?_ hreader hwriter⟩
  · rw [Machine.classOf_allocated]
    exact LoadedClass.findMethod?_own hget
  · rw [Machine.classOf_allocated]
    exact LoadedClass.findMethod?_own hset

/-- Storing what a constructor has bound. -/
theorem putHandle_sets (callee : Callee) (type : MethodType) (f : Frame) {self : Nat}
    {name : String} {v : Value} (h : accessor.Fronts s.resolvingBody)
    (hstands : m.Stands self accessor) (hname : handleField name ∈ s.handleFields)
    (hv : v = .null ∨ ∃ handle, v = .handle handle) :
    ∃ m', (step callee type ((f.push (.object self)).push v) (.putField s.className name)).on m =
        (.ok (.running f), m') ∧ Machine.Sets self name v m m' := by
  have hfits : m.fits v handleType = true := by
    rcases hv with rfl | ⟨handle, rfl⟩
    · exact Value.fits_null m.isInstance _
    · exact (Value.fits_class m.isInstance (by decide) _).trans (by simp [Value.conformsToClass])
  have hclass : accessor.name = s.className := h.name
  exact hclass ▸ step_putField_sets callee type f hstands (handleField_found h hname) hfits

/-- An accessor that goes through handles holds those that its fields hold. -/
theorem Loaded.holds (h : s.Loaded backend accessor)
    (hresolves : backend.needsAugmentation = false) {self : Nat} {get : MemberHandle}
    {set : Option MemberHandle} (hstands : m.Stands self accessor)
    (hgetter : m.field? self s.readingField = some (.handle get))
    (hsetter : m.field? self s.writingField = some (set.elim .null .handle)) :
    s.Holds get set m self := by
  obtain ⟨_, hget, hset⟩ := (h.resolves hresolves).body ▸ s.resolvingBody_members
  constructor
  · rw [hstands.type]
    exact LoadedClass.findMethod?_own hget
  · rw [hstands.type]
    exact LoadedClass.findMethod?_own hset
  · exact h.className ▸ hstands.isInstance
  · exact hgetter
  · exact hsetter

/-- An accessor of a field that goes through a handle is made with its handle bound. -/
theorem Loaded.make_resolving (h : s.Loaded backend accessor) (levels : Nat)
    (hresolves : backend.needsAugmentation = false) (haccess : s.property.access = .field)
    (hlinks : m.registry.Links s.className accessor)
    (hentity : m.registry.Links s.entity entity) {field : FieldSlot}
    (hslot : entity.slot? s.property.name = some slot) (hfield : entity.slots[slot]? = some field) :
    ∃ m' handle, (constructWith (execute (levels + 1)) s.className Construction.plain []).on m =
        (.ok m.heap.size, m') ∧
      m.Grows m' ∧ m'.heap.size = m.heap.size + 1 ∧ m'.Stands m.heap.size accessor ∧
      handle.Binds entity s.property.name (.field slot field.type) ∧
      s.Holds handle (some handle) m' m.heap.size := by
  have hfronts := h.resolves hresolves
  obtain ⟨hconstructor, _, _⟩ := hfronts.body ▸ s.resolvingBody_members
  obtain ⟨r, hlater, _, hmake, _⟩ := constructWith_on (execute (levels + 1))
    Construction.plain [] hlinks
  obtain ⟨r', handle, hlater', hbinds, hbind⟩ :=
    resolveField_on (m := m.allocated r accessor) (hlater.links_iff.mpr hentity) hslot hfield
  -- The handle is bound on the machine with the new object, and stored there.
  let bound : Machine := { m.allocated r accessor with
    registry := r', handleCount := (m.allocated r accessor).handleCount + 1 }
  have hbound : (m.allocated r accessor).Grows bound := Machine.rebound_grows hlater' _
  have hstands : bound.Stands m.heap.size accessor :=
    (m.stands_allocated r accessor).grows hbound
  have hfields : handleField fieldHandle ∈ s.handleFields := by
    unfold handleFields
    rw [haccess]
    exact List.mem_singleton.mpr rfl
  have hcode : s.bindCode ++ [.returnVoid] = [Code.loadThis,
      .resolveField s.entity s.property.name, .putField s.className fieldHandle, .returnVoid] := by
    simp [bindCode, haccess]
  let method := constructor Construction.plain (s.bindCode ++ [.returnVoid])
  obtain ⟨m', hput, hsets⟩ := putHandle_sets (execute levels) ⟨[], none⟩
    (.enter method m.heap.size []) hfronts hstands hfields (.inr ⟨handle, rfl⟩)
  have hrun : (execute (levels + 1) m.heap.size method []).on (m.allocated r accessor) =
      (.ok .null, m') := by
    refine execute_on MethodType.parse_plain .nil ?_
    refine (congrArg (Ends _ _ · _ _ _ _) hcode).mpr ?_
    exact .cons (step_load (Frame.enter_self _ _ _)) (.cons (step_resolveField hbind)
      (.cons hput (.finish step_returnVoid)))
  have hmade := hsets.stands accessor hstands
  refine ⟨m', handle, hmake _ _ _ hconstructor hrun, ?_, ?_, hmade, hbinds, ?_⟩
  · exact ((Machine.allocated_grows hlater accessor).trans hbound).sets (Nat.le_refl _) hsets
  · exact hsets.size.trans (m.allocated_size r accessor)
  · refine h.holds hresolves hmade ?_ ?_
    · rw [readingField, haccess]
      exact hsets.field
    · rw [writingField, haccess]
      exact hsets.field

/-- Storing the handle of a method of the entity, or null where there is no method: the handle is
bound first, which changes no object, and calls the method. -/
private theorem bindHandle_moves (h : accessor.Fronts s.resolvingBody) (levels : Nat)
    (type : MethodType) {f : Frame} {self : Nat} {name : String} {method : Option MethodRef}
    (hself : f.locals[0]? = some (.object self)) (hstands : m.Stands self accessor)
    (hname : handleField name ∈ s.handleFields) (hentity : m.registry.Links s.entity entity)
    (hoffers : ∀ w ∈ method, entity.Offers w) :
    ∃ (handle : Option MemberHandle) (m₁ m₂ : Machine),
      Moves (execute levels) type [Code.loadThis,
        method.elim .pushNull fun w => .resolveMethod s.entity w.name w.descriptor true,
        .putField s.className name] f m f m₂ ∧
      m.Grows m₁ ∧ Machine.Sets self name (handle.elim .null .handle) m₁ m₂ ∧
      Option.Rel (fun handle w => handle.Calls entity w) handle method := by
  cases method with
  | none =>
    obtain ⟨m₂, hput, hsets⟩ := putHandle_sets (execute levels) type f h hstands hname (.inl rfl)
    exact ⟨none, m, m₂, .cons (step_load hself) (.cons step_pushNull (.step hput)), .refl m, hsets,
      .none⟩
  | some w =>
    obtain ⟨handle, m₁, hbound, hgrows, hcalls⟩ := bindMethod_on hentity (hoffers w rfl)
    obtain ⟨m₂, hput, hsets⟩ := putHandle_sets (execute levels) type f h (hstands.grows hgrows)
      hname (.inr ⟨handle, rfl⟩)
    exact ⟨some handle, m₁, m₂,
      .cons (step_load hself) (.cons (step_resolveMethod hbound) (.step hput)), hgrows, hsets,
      .some hcalls⟩

/-- An accessor that goes through methods is made with their handles bound. -/
theorem Loaded.make_bound (h : s.Loaded backend accessor) (levels : Nat)
    (hresolves : backend.needsAugmentation = false) {getter : MethodRef}
    {setter : Option MethodRef} (haccess : s.property.access = .method getter setter)
    (hlinks : m.registry.Links s.className accessor)
    (hentity : m.registry.Links s.entity entity) (hgetter : entity.Offers getter)
    (hsetter : ∀ w ∈ setter, entity.Offers w) :
    ∃ m' get set, (constructWith (execute (levels + 1)) s.className Construction.plain []).on m =
        (.ok m.heap.size, m') ∧
      m.Grows m' ∧ m'.Stands m.heap.size accessor ∧ get.Calls entity getter ∧
      Option.Rel (fun handle w => handle.Calls entity w) set setter ∧
      s.Holds get set m' m.heap.size := by
  have hfronts := h.resolves hresolves
  obtain ⟨hconstructor, _, _⟩ := hfronts.body ▸ s.resolvingBody_members
  have hfields : s.handleFields = [handleField getterHandle, handleField setterHandle] := by
    unfold handleFields
    rw [haccess]
  obtain ⟨r, hlater, _, hmake, _⟩ := constructWith_on (execute (levels + 1))
    Construction.plain [] hlinks
  let method := constructor Construction.plain (s.bindCode ++ [.returnVoid])
  let f : Frame := .enter method m.heap.size []
  have hself : f.locals[0]? = some (.object m.heap.size) := Frame.enter_self _ _ _
  have hstands := m.stands_allocated r accessor
  -- The handle for reading is bound and stored first, then the one for writing, if there is one.
  have hreader : ∀ w ∈ some getter, entity.Offers w := fun w hw =>
    Option.mem_some_iff.mp hw ▸ hgetter
  obtain ⟨read, m₁, m₂, hreads, hgrows₁, hsets₂, hreadCalls⟩ := bindHandle_moves hfronts levels
    ⟨[], none⟩ hself hstands (by simp [hfields] : handleField getterHandle ∈ _)
    (hlater.links_iff.mpr hentity) hreader
  obtain ⟨get, rfl, hgetCalls⟩ : ∃ get, read = some get ∧ get.Calls entity getter := by
    cases hreadCalls with
    | some hcalls => exact ⟨_, rfl, hcalls⟩
  have hstands₂ := hsets₂.stands accessor (hstands.grows hgrows₁)
  have hlater₂ : m.registry.Later m₂.registry :=
    (hlater.trans hgrows₁.registry).trans hsets₂.later
  obtain ⟨set, m₃, m₄, hwrites, hgrows₃, hsets₄, hsetCalls⟩ := bindHandle_moves hfronts levels
    ⟨[], none⟩ hself hstands₂ (by simp [hfields] : handleField setterHandle ∈ _)
    (hlater₂.links_iff.mpr hentity) hsetter
  have hmade := hsets₄.stands accessor (hstands₂.grows hgrows₃)
  have hrun : (execute (levels + 1) m.heap.size method []).on (m.allocated r accessor) =
      (.ok .null, m₄) := by
    refine execute_on MethodType.parse_plain .nil ?_
    have hcode : s.bindCode = [Code.loadThis,
        .resolveMethod s.entity getter.name getter.descriptor true,
        .putField s.className getterHandle] ++ [Code.loadThis,
        setter.elim .pushNull fun w => .resolveMethod s.entity w.name w.descriptor true,
        .putField s.className setterHandle] := by
      simp [bindCode, haccess]
    have hbinds : Moves (execute levels) ⟨[], none⟩ s.bindCode f (m.allocated r accessor) f m₄ :=
      hcode ▸ hreads.append hwrites
    exact hbinds.ends (.finish step_returnVoid)
  refine ⟨m₄, get, set, hmake _ _ _ hconstructor hrun, ?_, hmade, hgetCalls, hsetCalls,
    h.holds hresolves hmade ?_ ?_⟩
  · have hgrown := ((Machine.allocated_grows hlater accessor).trans hgrows₁).sets
      (Nat.le_refl _) hsets₂
    exact (hgrown.trans hgrows₃).sets (Nat.le_refl _) hsets₄
  -- The handle for reading stays where it is while the other one is bound and stored.
  · rw [readingField, haccess]
    refine (hsets₄.others getterHandle (by decide)).trans ?_
    rw [hgrows₃.field? hstands₂.bound]
    exact hsets₂.field
  · rw [writingField, haccess]
    exact hsets₄.field

end AccessorShape

end EntityForge
