import EntityForge.Proofs.Entity.Getters
import EntityForge.Proofs.Generated.Reflection

/-!
One call of an accessor that goes through a declared getter and its setter. The code of the two was
written by name and type alone: a setter that has a field behind it shares this field with its
getter, and any other setter throws. So a write that is answered is what the next read answers.
-/

namespace EntityForge

open Run

variable {m : Machine} {c : ClassMeta} {w getter : MethodMeta} {x : String} {p : Property}
  {entity : LoadedClass} {slot object : Nat} {v : Value}

/-- An object passes the check of its own class, unless this is named like an array. -/
theorem Machine.conforms_own {name : String} (hplain : name.toList.head? ≠ some '[')
    (hname : (m.classOf object).name = name) : m.conforms (.object object) name = true := by
  have hinstance : m.isInstance object name = true := hname ▸ Machine.isInstance_own rfl
  refine (Value.conformsTo_class _ hplain _).trans ?_
  rw [Value.conformsToClass, hinstance, Bool.or_true]

theorem Run.step_throw {callee : Callee} {type : MethodType} {f : Frame} (message : String) :
    (step callee type f (.throw message)).on m =
      (.error (.thrown (m.classOf f.self).name f.method.name message), m) := rfl

namespace Accessor

/-- Every write is refused for want of a setter, and changes nothing. -/
def RefusesWrites (a : Accessor) (className property : String) (m : Machine) (object : Nat) :
    Prop :=
  ∀ v, (a.set object v).on m = (.error (.readOnlyProperty className property), m)

/-- No write is refused for want of a setter. One that is answered changes the field that getter and
setter share and nothing else, and the next read answers its value. -/
structure WritesThrough (a : Accessor) (c : ClassMeta) (getter setter : MethodMeta) (m : Machine)
    (object : Nat) : Prop where
  writable : ∀ v e m', (a.set object v).on m = (.error e, m') → e.category ≠ .readOnly
  stored : ∀ v m', (a.set object v).on m = (.ok (), m') → ∃ f slot, c.Shares getter setter f ∧
    (m.classOf object).slot? f.name = some slot ∧ m' = m.put object slot v ∧
    (a.get object).on m' = (.ok v, m')

end Accessor

/-- A property is read and written by declared methods, in a class that is as it is declared. -/
structure Property.PairedIn (p : Property) (c : ClassMeta) (entity : LoadedClass) (x : String)
    (getter w : MethodMeta) : Prop where
  methods : (c.methods.map fun m => (m.name, m.descriptor)).Nodup
  fronts : entity.Fronts c.compiled
  denotable : p.type.Denotable
  access : p.access = .method ⟨getter.name, getter.descriptor⟩ (some ⟨w.name, w.descriptor⟩)
  member : getter ∈ c.methods
  name : getter.IsGetterOf x
  answers : getter.descriptor = "()" ++ p.type.erasedDescriptor
  setter : c.DeclaresSetter x p.type.erasedDescriptor w

namespace Property.PairedIn

/-! What calls of the two methods do. A method with a role reads or writes its field; one without a
role throws. -/

section Calls

variable (h : p.PairedIn c entity x getter w) (hclass : m.classOf object = entity)
include h hclass

private theorem call_on {callee : Callee} {declared : MethodMeta} (hmem : declared ∈ c.methods)
    (hplain : declared.name.toList.head? ≠ some '<') (args : List Value) :
    (callWith callee object declared.name declared.descriptor args).on m =
      (callee object (.ofCode declared.name declared.descriptor declared.flags
        (c.methodCode declared)) args).on m := by
  apply callWith_on
  rw [hclass]
  refine h.fronts.findMethod? (ClassMeta.compiled_found h.methods hmem fun hname => hplain ?_)
  rw [hname]
  rfl

theorem getter_on {f : FieldMeta} (hreads : c.role? getter = some (.reads f))
    (hname : f.name = p.name) (hfront : p.Fronted entity slot)
    (hvalue : (m.object object).fields[slot]? = some v) (hfits : m.fits v p.type = true) :
    (callWith (execute 255) object getter.name getter.descriptor []).on m = (.ok v, m) := by
  have hcode : c.methodCode getter = ClassMeta.readCode entity.name p.name := by
    rw [ClassMeta.methodCode_plain h.name.plain, hreads, h.fronts.name, ← hname]
    rfl
  rw [h.call_on hclass h.member h.name.plain, hcode, h.answers]
  exact hfront.read_on hclass hvalue hfits

theorem setter_on {f : FieldMeta} (hwrites : c.role? w = some (.writes f))
    (hname : f.name = p.name) (hfront : p.Fronted entity slot)
    (hbound : slot < (m.object object).fields.length) (hfits : m.fits v p.type = true) :
    (callWith (execute 255) object w.name w.descriptor [v]).on m =
      (.ok .null, m.put object slot v) := by
  have hcode : c.methodCode w = ClassMeta.writeCode entity.name p.name := by
    rw [ClassMeta.methodCode_plain h.setter.plain, hwrites, h.fronts.name, ← hname]
    rfl
  rw [h.call_on hclass h.setter.member h.setter.plain, hcode, h.setter.descriptor]
  exact hfront.write_on hclass hbound hfits

theorem setter_throws (hrole : c.role? w = none) (hfits : m.fits v p.type = true) :
    ∃ e, (callWith (execute 255) object w.name w.descriptor [v]).on m = (.error e, m) ∧
      e.category = .unsupported := by
  have hcode : c.methodCode w =
      [.throw (c.name ++ "." ++ w.name ++ w.descriptor ++ " has no compiled body")] := by
    rw [ClassMeta.methodCode_plain h.setter.plain, hrole]
  have hargs : m.fits v p.type.erased = true :=
    (Value.fits_erased m.isInstance v p.type).trans hfits
  rw [h.call_on hclass h.setter.member h.setter.plain, hcode, h.setter.descriptor]
  exact ⟨_, execute_on (MethodType.parse_taking h.denotable) (.cons hargs .nil)
    (.fail (step_throw _)), rfl⟩

end Calls

/-! What the accessor does that holds handles of the two methods. -/

variable {e : String} {self : Nat} {get write : MemberHandle}

theorem writable (h : p.PairedIn c entity x getter w) : p.access.isReadOnly = false := by
  rw [h.access]
  rfl

/-- The handles of the property are those of its methods. -/
theorem calls {set : Option MemberHandle} (h : p.PairedIn c entity x getter w)
    (hbound : p.Bound entity get set) :
    get.Calls entity ⟨getter.name, getter.descriptor⟩ ∧
      ∃ write, set = some write ∧ write.Calls entity ⟨w.name, w.descriptor⟩ := by
  cases hbound with
  | field haccess => cases haccess.symm.trans h.access
  | method haccess _ _ hget hset =>
    cases haccess.symm.trans h.access
    cases hset with
    | some hcalls => exact ⟨hget, _, rfl, hcalls⟩

section Accessor

variable (h : p.PairedIn c entity x getter w) (hclass : m.classOf object = entity)
  (hholds : (⟨e, p⟩ : AccessorShape).Holds get (some write) m self)
  (hadmits : m.conforms (.object object) e = true)
include h hclass hholds hadmits

/-- What a getter with a role answers after its field was written. -/
theorem get_put (hget : get.Calls entity ⟨getter.name, getter.descriptor⟩) (hother : self ≠ object)
    {f : FieldMeta} (hreads : c.role? getter = some (.reads f)) (hname : f.name = p.name)
    (hfront : p.Fronted entity slot) (hid : object < m.heap.size)
    (hbound : slot < (m.object object).fields.length) (hfits : m.fits v p.type = true) :
    ((Accessor.generated self).get object).on (m.put object slot v) =
      (.ok v, m.put object slot v) := by
  have hclass' : (m.put object slot v).classOf object = entity := by
    rw [Machine.classOf_put, hclass]
  have hfits' : (m.put object slot v).fits v p.type = true := by
    rw [Machine.fits_put, hfits]
  have hvalue : ((m.put object slot v).object object).fields[slot]? = some v := by
    rw [Machine.object_put_self m object slot v hid]
    exact List.getElem?_set_self hbound
  have hinstance := Machine.isInstance_own hclass'
  have hread := (hget.get_on h.denotable hinstance h.answers).trans
    (h.getter_on hclass' hreads hname hfront hvalue hfits')
  -- The write was to the object, so the accessor still holds its handles.
  have hkept := hholds.same (m.object_put_ne object slot v hother)
  refine (hkept.get_on (by rwa [Machine.conforms_put]) ?_).trans hread
  intro v' m' hanswer
  cases hread.symm.trans hanswer
  exact hfits'

variable (hset : write.Calls entity ⟨w.name, w.descriptor⟩)
include hset

private theorem set_calls (hfits : m.fits v p.type = true) :
    ((Accessor.generated self).set object v).on m =
      (callWith (execute 255) object w.name w.descriptor [v] >>= fun _ => pure ()).on m := by
  have hinstance := Machine.isInstance_own hclass
  exact (hholds.set_on h.writable hadmits hfits).trans
    (hset.set_on h.denotable hinstance h.setter.descriptor)

/-- With a setter that has no role, no write is answered. -/
theorem set_throws (hrole : c.role? w = none) (v : Value) :
    ∃ failure, ((Accessor.generated self).set object v).on m = (.error failure, m) ∧
      failure.category ≠ .readOnly := by
  cases hfits : m.fits v p.type with
  | false =>
    refine ⟨_, hholds.set_refuses_value h.writable hadmits hfits, ?_⟩
    rw [AccessorShape.refusal_category]
    exact nofun
  | true =>
    obtain ⟨failure, hthrows, hcategory⟩ := h.setter_throws hclass hrole hfits
    refine ⟨failure, ?_, by simp [hcategory]⟩
    exact (h.set_calls hclass hholds hadmits hset hfits).trans (on_bind_error hthrows)

/-- With a setter that has a role, the values that fit are written to its field. -/
theorem set_on {f : FieldMeta} (hwrites : c.role? w = some (.writes f)) (hname : f.name = p.name)
    (hfront : p.Fronted entity slot) (hbound : slot < (m.object object).fields.length)
    (v : Value) :
    ((Accessor.generated self).set object v).on m =
      if m.fits v p.type = true then (.ok (), m.put object slot v)
      else (.error (AccessorShape.refusal ⟨e, p⟩ v), m) := by
  cases hfits : m.fits v p.type with
  | false =>
    rw [if_neg Bool.false_ne_true]
    exact hholds.set_refuses_value h.writable hadmits hfits
  | true =>
    rw [if_pos rfl]
    exact (h.set_calls hclass hholds hadmits hset hfits).trans
      (on_bind_ok (h.setter_on hclass hwrites hname hfront hbound hfits))

end Accessor

/-- On an object of the class the accessor writes through, whether or not the setter has a role. -/
theorem writesThrough (h : p.PairedIn c entity x getter w) (hclass : m.classOf object = entity)
    (hholds : (⟨e, p⟩ : AccessorShape).Holds get (some write) m self)
    (hbound : p.Bound entity get (some write)) (hadmits : m.conforms (.object object) e = true)
    (hother : self ≠ object) (hid : object < m.heap.size)
    (hlength : (m.object object).fields.length = entity.slots.length)
    (hrole : c.role? w = none ∨
      ∃ f slot, c.Shares getter w f ∧ f.name = p.name ∧ p.Fronted entity slot) :
    (Accessor.generated self).WritesThrough c getter w m object := by
  obtain ⟨hget, _, hwrite, hset⟩ := h.calls hbound
  obtain rfl := Option.some.inj hwrite
  obtain hnone | ⟨f, slot, hshares, hname, hfront⟩ := hrole
  · have hthrows := h.set_throws hclass hholds hadmits hset hnone
    constructor
    · intro v failure m' hfails
      obtain ⟨_, hset, hcategory⟩ := hthrows v
      cases hset.symm.trans hfails
      exact hcategory
    · intro v m' hanswers
      obtain ⟨_, hset, _⟩ := hthrows v
      cases hset.symm.trans hanswers
  · have hplace : slot < (m.object object).fields.length := by
      obtain ⟨field, hfield, _⟩ := hfront.field
      rw [hlength]
      exact (List.getElem?_eq_some_iff.mp hfield).1
    have hstores := h.set_on hclass hholds hadmits hset hshares.writes hname hfront hplace
    constructor
    · intro v failure m' hfails
      have houtcome := (hstores v).symm.trans hfails
      split at houtcome
      · cases houtcome
      · cases houtcome
        rw [AccessorShape.refusal_category]
        exact nofun
    · intro v m' hanswers
      have houtcome := (hstores v).symm.trans hanswers
      split at houtcome
      · next hfits =>
        obtain ⟨-, rfl⟩ := Prod.mk.inj houtcome
        refine ⟨f, slot, hshares, ?_, rfl, ?_⟩
        · rw [hclass, hname]
          exact hfront.found
        · exact h.get_put hclass hholds hadmits hget hother hshares.reads hname hfront hid
            hplace hfits
      · cases houtcome

end Property.PairedIn

end EntityForge
