import EntityForge.Proofs.Generated.Handles

/-!
One call of a generated accessor. Whichever way an accessor reaches its property, by calling the
injected reader and writer or through a bound handle, it reads what stands in the slot, it writes
what fits the type of the property, and it refuses everything else with the same failure.
-/

namespace EntityForge

open Run

variable {m : Machine} {callee : Callee} {type : MethodType} {f : Frame} {v : Value}

/-! The code that reads a field and the code that writes one. -/

/-- A field stands behind a property in the objects of a class. -/
structure Property.Fronted (p : Property) (c : LoadedClass) (slot : Nat) : Prop where
  denotable : p.type.Denotable
  found : c.slot? p.name = some slot
  field : ∃ field, c.slots[slot]? = some field ∧ field.type = p.type.erased

namespace Property

variable {p : Property} {c : LoadedClass} {slot object levels : Nat} {name : String}
  {flags : UInt16}

/-- Storing a value that fits the property into the slot of an object. -/
theorem Fronted.setField_on (hfront : p.Fronted c slot) (hclass : m.classOf object = c)
    (hbound : slot < (m.object object).fields.length) (hfits : m.fits v p.type = true) :
    (setField object p.name v).on m = (.ok (), m.put object slot v) := by
  obtain ⟨field, hfield, htype⟩ := hfront.field
  refine Run.setField_on (hclass ▸ hfront.found) (hclass ▸ hfield) hbound ?_
  rw [htype]
  exact (Value.fits_erased m.isInstance v p.type).trans hfits

theorem Fronted.read_on (hfront : p.Fronted c slot) (hclass : m.classOf object = c)
    (hvalue : (m.object object).fields[slot]? = some v) (hfits : m.fits v p.type = true) :
    (execute (levels + 1) object
        (.ofCode name ("()" ++ p.type.erasedDescriptor) flags
          (ClassMeta.readCode c.name p.name)) []).on m = (.ok v, m) := by
  have hinstance := Machine.isInstance_own hclass
  refine execute_on (MethodType.parse_answering hfront.denotable) .nil ?_
  have hfield : m.field? object p.name = some v := by
    rw [Machine.field?_of_slot (hclass ▸ hfront.found), hvalue]
  have hresult : m.fits v p.type.erased = true :=
    (Value.fits_erased m.isInstance v p.type).trans hfits
  exact .cons (step_load (Frame.enter_self _ _ _))
    (.cons (step_getField hinstance hfield)
      (.finish (step_returnValue hresult)))

theorem Fronted.write_on (hfront : p.Fronted c slot) (hclass : m.classOf object = c)
    (hbound : slot < (m.object object).fields.length) (hfits : m.fits v p.type = true) :
    (execute (levels + 1) object
        (.ofCode name ("(" ++ p.type.erasedDescriptor ++ ")V") flags
          (ClassMeta.writeCode c.name p.name)) [v]).on m =
      (.ok .null, m.put object slot v) := by
  have hinstance := Machine.isInstance_own hclass
  refine execute_on (MethodType.parse_taking hfront.denotable) (.cons ?_ .nil) ?_
  · exact (Value.fits_erased m.isInstance v p.type).trans hfits
  exact .cons (step_load (Frame.enter_self _ _ _))
    (.cons (step_load (Frame.enter_arg _ _ rfl))
      (.cons (step_putField hinstance (hfront.setField_on hclass hbound hfits))
        (.finish step_returnVoid)))

end Property

/-! Whole calls. -/

namespace AccessorShape

/-- An accessor object reaches the slot of its property in the objects of a class: either the
methods that it calls are there, or its handle is bound to the slot. -/
inductive Serves (s : AccessorShape) (c : LoadedClass) (slot : Nat) (m : Machine) (self : Nat) :
    Prop where
  | calling
      (hget : (m.classOf self).findMethod? AccessorMember.get.name AccessorMember.get.descriptor =
        some (member AccessorMember.get s.callReader))
      (hset : (m.classOf self).findMethod? AccessorMember.set.name AccessorMember.set.descriptor =
        some (member AccessorMember.set s.callWriter))
      (hreader : c.findMethod? (GeneratedName.reader s.property.name)
        ("()" ++ s.property.type.erasedDescriptor) =
        some (.ofCode (GeneratedName.reader s.property.name)
          ("()" ++ s.property.type.erasedDescriptor) ClassMeta.injectedFlags
          (ClassMeta.readCode c.name s.property.name)))
      (hwriter : c.findMethod? (GeneratedName.writer s.property.name)
        ("(" ++ s.property.type.erasedDescriptor ++ ")V") =
        some (.ofCode (GeneratedName.writer s.property.name)
          ("(" ++ s.property.type.erasedDescriptor ++ ")V") ClassMeta.injectedFlags
          (ClassMeta.writeCode c.name s.property.name)))
  | resolving (h : MemberHandle) (type : TypeTree) (haccess : s.property.access = .field)
      (hholds : s.Holds h (some h) m self) (hbinds : h.Binds c s.property.name (.field slot type))

variable {s : AccessorShape} {c : LoadedClass} {slot self object : Nat}

/-- What reading an object answers whose slot holds a value: the value, if the object passes the
check of its class. -/
def reading (s : AccessorShape) (admitted : Bool) (v : Value) : Except Failure Value :=
  if admitted then .ok v else .error (.cannotCast "object" s.entity)

/-- What writing a value answers: it is refused if it does not fit. -/
def writing (s : AccessorShape) (admitted fits : Bool) (v : Value) : Except Failure Unit :=
  if admitted then if fits then .ok () else .error (s.refusal v)
  else .error (.cannotCast "object" s.entity)

private theorem callReader_ends (hobject : f.locals[1]? = some (.object object))
    (hfront : s.property.Fronted c slot) (hinstance : m.isInstance object s.entity = true)
    (hread : (callWith callee object (GeneratedName.reader s.property.name)
      ("()" ++ s.property.type.erasedDescriptor) []).on m = (.ok v, m))
    (hfits : m.fits v s.property.type = true) :
    Ends callee getType s.callReader f m
      (s.reading (m.conforms (.object object) s.entity) v) m := by
  have hcode : s.callReader = [.load 1, .checkCast s.entity] ++
      (.invoke s.entity (GeneratedName.reader s.property.name)
        ("()" ++ s.property.type.erasedDescriptor) :: (s.boxCode ++ [.returnValue])) := by
    simp [callReader]
  rw [hcode]
  cases hadmits : m.conforms (.object object) s.entity with
  | false => exact (checkObject_refuses hobject hadmits).append _
  | true =>
    have hinvoke := @step_invoke callee getType f m m v _ _ _ _ _ []
      (MethodType.parse_answering hfront.denotable) rfl hinstance hread
    exact (checkObject_moves hobject hadmits).ends (.cons hinvoke (boxed_ends hfits))

/-- The machine after a write: the slot is written exactly if the write is answered. -/
def written (s : AccessorShape) (m : Machine) (object slot : Nat) (v : Value) : Machine :=
  if m.conforms (.object object) s.entity && m.fits v s.property.type then m.put object slot v
  else m

private theorem callWriter_ends (hobject : f.locals[1]? = some (.object object))
    (hvalue : f.locals[2]? = some v) (hfront : s.property.Fronted c slot)
    (hinstance : m.isInstance object s.entity = true)
    (hwrite : m.fits v s.property.type = true →
      (callWith callee object (GeneratedName.writer s.property.name)
        ("(" ++ s.property.type.erasedDescriptor ++ ")V") [v]).on m =
        (.ok .null, m.put object slot v)) :
    Ends callee setType s.callWriter f m
      ((s.writing (m.conforms (.object object) s.entity) (m.fits v s.property.type) v).map
        fun _ => .null) (s.written m object slot v) := by
  have hcode : s.callWriter = [.load 1, .checkCast s.entity] ++ (.load 2 :: (s.checkCode ++
      [.invoke s.entity (GeneratedName.writer s.property.name)
        ("(" ++ s.property.type.erasedDescriptor ++ ")V"), .returnVoid])) := by
    simp [callWriter]
  rw [hcode]
  unfold written writing
  cases hadmits : m.conforms (.object object) s.entity with
  | false => exact (checkObject_refuses hobject hadmits).append _
  | true =>
    refine (checkObject_moves hobject hadmits).ends (.cons (step_load hvalue) ?_)
    cases hfits : m.fits v s.property.type with
    | false => exact (checkCode_refuses hfits).append _
    | true =>
      have hinvoke := @step_invoke callee setType f m _ _ _ _ _ _ _ [v]
        (MethodType.parse_taking hfront.denotable) rfl hinstance (hwrite hfits)
      exact (checkCode_moves hfits).ends (.cons hinvoke (.finish step_returnVoid))

/-- Reading answers what stands in the slot, if the object passes the check of its class. -/
theorem Serves.get_on (hserves : s.Serves c slot m self) (hfront : s.property.Fronted c slot)
    (hname : c.name = s.entity) (hclass : m.classOf object = c)
    (hvalue : (m.object object).fields[slot]? = some v)
    (hfits : m.fits v s.property.type = true) :
    ((Accessor.generated self).get object).on m =
      (s.reading (m.conforms (.object object) s.entity) v, m) := by
  have hown := Machine.isInstance_own hclass
  cases hserves with
  | calling hget hset hreader hwriter =>
    refine (callWith_on hget).trans (execute_on MethodType.parse_get arguments_get ?_)
    have hcall : (callWith (execute 255) object (GeneratedName.reader s.property.name)
        ("()" ++ s.property.type.erasedDescriptor) []).on m = (.ok v, m) := by
      subst hclass
      rw [callWith_on hreader]
      exact hfront.read_on rfl hvalue hfits
    exact callReader_ends (Frame.enter_arg _ _ rfl) hfront (hname ▸ hown) hcall hfits
  | resolving h type haccess hholds hbinds =>
    have hread : (Run.handleGet h object).on m = (.ok v, m) :=
      handleGetWith_on hbinds.target (hbinds.className ▸ hown) hvalue
    unfold reading
    cases hadmits : m.conforms (.object object) s.entity with
    | false => exact hholds.get_refuses hadmits
    | true =>
      refine (hholds.get_on hadmits ?_).trans hread
      intro w m' hanswer
      cases hread.symm.trans hanswer
      exact hfits

/-- Writing stores a value that fits, if the object passes the check of its class; otherwise it
fails and changes nothing. -/
theorem Serves.set_on (hserves : s.Serves c slot m self) (hfront : s.property.Fronted c slot)
    (hname : c.name = s.entity) (hclass : m.classOf object = c)
    (hbound : slot < (m.object object).fields.length) :
    ((Accessor.generated self).set object v).on m =
      (s.writing (m.conforms (.object object) s.entity) (m.fits v s.property.type) v,
        s.written m object slot v) := by
  have hown := Machine.isInstance_own hclass
  cases hserves with
  | calling hget hset hreader hwriter =>
    refine AccessorShape.set_on
      ((callWith_on hset).trans (execute_on MethodType.parse_set arguments_set ?_))
    refine callWriter_ends (Frame.enter_arg _ _ rfl) (Frame.enter_arg _ _ rfl) hfront
      (hname ▸ hown) fun hfits => ?_
    subst hclass
    rw [callWith_on hwriter]
    exact hfront.write_on rfl hbound hfits
  | resolving h type haccess hholds hbinds =>
    have hwritable : s.property.access.isReadOnly = false := by
      rw [haccess]
      rfl
    unfold writing written
    cases hadmits : m.conforms (.object object) s.entity with
    | false => exact hholds.set_refuses hadmits
    | true =>
      cases hfits : m.fits v s.property.type with
      | false => exact hholds.set_refuses_value hwritable hadmits hfits
      | true =>
        obtain ⟨field, hfield, htype⟩ := hfront.field
        refine (hholds.set_on hwritable hadmits hfits).trans ?_
        refine handleSetWith_on hbinds.target (hbinds.className ▸ hown) (hclass ▸ hfield) hbound ?_
        rw [htype]
        exact (Value.fits_erased m.isInstance v s.property.type).trans hfits

end AccessorShape

end EntityForge
