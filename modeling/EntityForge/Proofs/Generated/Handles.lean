import EntityForge.Model.Accessor
import EntityForge.Proofs.Generated.EntityClass
import EntityForge.Proofs.Machine.Construction
import EntityForge.Proofs.Value.Conformance

/-!
The code of accessors, piece by piece, and accessors that go through handles. Between the check of
the object, the check of the value and the box around the answer, such an accessor does what its
handle does: where the checks pass, its calls are those of the handle.
-/

namespace EntityForge

open Run

variable {m m' : Machine} {callee : Callee} {type : MethodType} {f : Frame} {v : Value}

namespace MemberHandle.Binds

variable {h h' : MemberHandle} {c : LoadedClass} {name descriptor : String} {target : HandleTarget}
  {id : Nat}

/-- Handles of one member are used alike. -/
theorem alike (hbinds : h.Binds c name target) (hbinds' : h'.Binds c name target) :
    handleGetWith callee h = handleGetWith callee h' ∧
      handleSetWith callee h = handleSetWith callee h' := by
  obtain ⟨id, className, name, target⟩ := h
  obtain ⟨id', className', name', target'⟩ := h'
  obtain ⟨rfl, rfl, rfl⟩ := hbinds
  obtain ⟨rfl, rfl, rfl⟩ := hbinds'
  exact ⟨rfl, rfl⟩

/-- Reading through a handle of a method without parameters is calling it. -/
theorem get_calls (hbinds : h.Binds c name (.method descriptor 0))
    (hinstance : m.isInstance id c.name = true) :
    (handleGetWith callee h id).on m = (callWith callee id name descriptor []).on m := by
  obtain ⟨hclass, rfl, htarget⟩ := hbinds
  rw [handleGetWith, on_bind_ok (checkReceiver_on (hclass ▸ hinstance)), htarget]
  rfl

/-- Writing through a handle of a method of one parameter is calling it, and dropping the answer. -/
theorem set_calls (hbinds : h.Binds c name (.method descriptor 1))
    (hinstance : m.isInstance id c.name = true) :
    (handleSetWith callee h id v).on m =
      (callWith callee id name descriptor [v] >>= fun _ => pure ()).on m := by
  obtain ⟨hclass, rfl, htarget⟩ := hbinds
  rw [handleSetWith, on_bind_ok (checkReceiver_on (hclass ▸ hinstance)), htarget]
  rfl

end MemberHandle.Binds

namespace AccessorShape

variable {s : AccessorShape} {self object : Nat}

/-! Checks and boxes of values. -/

/-- The failure of writing a value that does not fit the property. -/
def refusal (s : AccessorShape) (v : Value) : Failure :=
  match s.property.type.primitive? with
  | some p => .cannotUnbox v.kindName p
  | none => .cannotCast v.kindName s.property.type.castName

theorem refusal_category (s : AccessorShape) (v : Value) :
    (s.refusal v).category = .typeMismatch := by
  unfold refusal
  cases s.property.type.primitive? <;> rfl

theorem boxCode_moves (h : m.fits v s.property.type = true) :
    Moves callee type s.boxCode (f.push v) m (f.push v) m := by
  unfold boxCode
  unfold Machine.fits Value.fits at h
  cases hp : s.property.type.primitive? with
  | none => exact .nil _ _
  | some p =>
    rw [hp] at h
    exact .step (step_box (by simpa using h))

theorem checkCode_moves (h : m.fits v s.property.type = true) :
    Moves callee type s.checkCode (f.push v) m (f.push v) m := by
  unfold checkCode
  unfold Machine.fits Value.fits at h
  cases hp : s.property.type.primitive? with
  | none =>
    rw [hp] at h
    exact .step (step_checkCast h)
  | some p =>
    rw [hp] at h
    exact .step (step_unbox (by simpa using h))

theorem checkCode_refuses (h : m.fits v s.property.type = false) :
    Ends callee type s.checkCode (f.push v) m (.error (s.refusal v)) m := by
  unfold checkCode refusal
  unfold Machine.fits Value.fits at h
  cases hp : s.property.type.primitive? with
  | none =>
    rw [hp] at h
    exact .fail (step_checkCast_error h)
  | some p =>
    rw [hp] at h
    exact .fail (step_unbox_error (by simpa using h))

/-! The code of the members. It starts with a check of the object's class, and a getter and a setter
go on from there in the way of their accessor. -/

theorem checkObject_moves (hobject : f.locals[1]? = some (.object object))
    (hadmits : m.conforms (.object object) s.entity = true) :
    Moves callee type [.load 1, .checkCast s.entity] f m (f.push (.object object)) m :=
  .cons (step_load hobject) (.step (step_checkCast hadmits))

theorem checkObject_refuses (hobject : f.locals[1]? = some (.object object))
    (hadmits : m.conforms (.object object) s.entity = false) :
    Ends callee type [.load 1, .checkCast s.entity] f m
      (.error (.cannotCast "object" s.entity)) m :=
  .cons (step_load hobject) (.fail (step_checkCast_error hadmits))

theorem arguments_get :
    List.Forall₂ (fun param arg => m.fits arg param = true) [.ofClass TypeTree.objectClass]
      [.object object] :=
  .cons (Value.fits_object m.isInstance _) .nil

theorem arguments_set :
    List.Forall₂ (fun param arg => m.fits arg param = true)
      [.ofClass TypeTree.objectClass, .ofClass TypeTree.objectClass] [.object object, v] :=
  .cons (Value.fits_object m.isInstance _) (.cons (Value.fits_object m.isInstance _) .nil)

def getType : MethodType :=
  ⟨[.ofClass TypeTree.objectClass], some (.ofClass TypeTree.objectClass)⟩

def setType : MethodType :=
  ⟨[.ofClass TypeTree.objectClass, .ofClass TypeTree.objectClass], none⟩

theorem boxed_ends (hfits : m.fits v s.property.type = true) :
    Ends callee getType (s.boxCode ++ [.returnValue]) (f.push v) m (.ok v) m := by
  have hresult : m.fits v (.ofClass TypeTree.objectClass) = true :=
    Value.fits_object m.isInstance v
  exact (boxCode_moves hfits).ends (.finish (step_returnValue hresult))

/-- What a setter answers is dropped. -/
theorem set_on {answer : Except Failure Unit}
    (h : (Run.invoke self AccessorMember.set.name AccessorMember.set.descriptor
      [.object object, v]).on m = (answer.map fun _ => .null, m')) :
    ((Accessor.generated self).set object v).on m = (answer, m') := by
  unfold Accessor.set
  dsimp only
  rw [on_bind, h]
  cases answer <;> rfl

/-! The handles of an accessor that goes through them. -/

def readingField (s : AccessorShape) : String :=
  if s.property.access.isField then fieldHandle else getterHandle

def writingField (s : AccessorShape) : String :=
  if s.property.access.isField then fieldHandle else setterHandle

/-- The code that starts the members: the handle and the checked object are pushed. -/
def fetchCode (s : AccessorShape) (name : String) : Code :=
  [Code.loadThis, .getField s.className name, .load 1, .checkCast s.entity]

theorem readHandle_code (s : AccessorShape) :
    s.readHandle = s.fetchCode s.readingField ++ (.handleGet :: (s.boxCode ++ [.returnValue])) := by
  simp [readHandle, fetchCode, readingField]

theorem writeHandle_code (s : AccessorShape) :
    s.writeHandle = s.fetchCode s.writingField ++ (.load 2 ::
      ((if s.property.access.isReadOnly then [] else s.checkCode) ++
        [.handleSet s.entity s.property.name, .returnVoid])) := by
  unfold writeHandle fetchCode writingField
  cases s.property.access with
  | field => simp [PropertyAccess.isField, PropertyAccess.isReadOnly]
  | method getter setter =>
    cases setter <;> simp [PropertyAccess.isField, PropertyAccess.isReadOnly]

structure Holds (s : AccessorShape) (get : MemberHandle) (set : Option MemberHandle) (m : Machine)
    (id : Nat) : Prop where
  getMember : (m.classOf id).findMethod? AccessorMember.get.name AccessorMember.get.descriptor =
    some (member AccessorMember.get s.readHandle)
  setMember : (m.classOf id).findMethod? AccessorMember.set.name AccessorMember.set.descriptor =
    some (member AccessorMember.set s.writeHandle)
  isInstance : m.isInstance id s.className = true
  getter : m.field? id s.readingField = some (.handle get)
  setter : m.field? id s.writingField = some (set.elim .null .handle)

section Calls

variable {name : String} {w : Value} (hthis : f.locals[0]? = some (.object self))
  (hobject : f.locals[1]? = some (.object object))
  (hinstance : m.isInstance self s.className = true) (hhandle : m.field? self name = some w)
include hthis hobject hinstance hhandle

theorem fetchCode_moves (hadmits : m.conforms (.object object) s.entity = true) :
    Moves callee type (s.fetchCode name) f m ((f.push w).push (.object object)) m :=
  .cons (step_load hthis) (.cons (step_getField hinstance hhandle)
    (checkObject_moves (f := f.push w) hobject hadmits))

theorem fetchCode_refuses (hadmits : m.conforms (.object object) s.entity = false) :
    Ends callee type (s.fetchCode name) f m (.error (.cannotCast "object" s.entity)) m :=
  .cons (step_load hthis) (.cons (step_getField hinstance hhandle)
    (checkObject_refuses (f := f.push w) hobject hadmits))

end Calls

namespace Holds

variable {get : MemberHandle} {set : Option MemberHandle}

/-- An accessor object holds its handles as long as it stays as it is. -/
theorem same (h : s.Holds get set m self) (hobject : m'.object self = m.object self) :
    s.Holds get set m' self := by
  have hclass : m'.classOf self = m.classOf self := by
    rw [Machine.classOf_object, hobject, Machine.classOf_object]
  have hfield (name : String) : m'.field? self name = m.field? self name := by
    rw [Machine.field?, hclass, hobject, Machine.field?]
  constructor
  · rw [hclass, h.getMember]
  · rw [hclass, h.setMember]
  · rw [Machine.isInstance, hclass]
    exact h.isInstance
  · rw [hfield, h.getter]
  · rw [hfield, h.setter]

/-- Reading an object that passes the check of its class is reading through the handle, if what this
answers fits the property. -/
theorem get_on (h : s.Holds get set m self)
    (hadmits : m.conforms (.object object) s.entity = true)
    (hfits : ∀ v m', (Run.handleGet get object).on m = (.ok v, m') →
      m'.fits v s.property.type = true) :
    ((Accessor.generated self).get object).on m = (Run.handleGet get object).on m := by
  cases hread : (Run.handleGet get object).on m with
  | mk answer m' =>
    refine (callWith_on h.getMember).trans (execute_on MethodType.parse_get arguments_get ?_)
    refine (congrArg (Ends _ _ · _ _ _ _) s.readHandle_code).mpr ?_
    refine (fetchCode_moves (Frame.enter_self _ _ _) (Frame.enter_arg _ _ rfl) h.isInstance
      h.getter hadmits).ends ?_
    cases answer with
    | error e => exact (Ends.fail (step_handleGet_error hread)).append _
    | ok v => exact .cons (step_handleGet hread) (boxed_ends (hfits v m' hread))

/-- An object that does not pass the check of its class is not read. -/
theorem get_refuses (h : s.Holds get set m self)
    (hadmits : m.conforms (.object object) s.entity = false) :
    ((Accessor.generated self).get object).on m = (.error (.cannotCast "object" s.entity), m) := by
  refine (callWith_on h.getMember).trans (execute_on MethodType.parse_get arguments_get ?_)
  refine (congrArg (Ends _ _ · _ _ _ _) s.readHandle_code).mpr ?_
  exact (fetchCode_refuses (Frame.enter_self _ _ _) (Frame.enter_arg _ _ rfl) h.isInstance h.getter
    hadmits).append _

/-- Writing runs the code behind the check of the object. -/
private theorem set_runs (h : s.Holds get set m self)
    (hadmits : m.conforms (.object object) s.entity = true) {answer : Except Failure Unit}
    (hrest : ∀ f : Frame, Ends (execute 255) setType
      ((if s.property.access.isReadOnly then [] else s.checkCode) ++
        [.handleSet s.entity s.property.name, .returnVoid])
      (((f.push (set.elim .null .handle)).push (.object object)).push v) m
      (answer.map fun _ => .null) m') :
    ((Accessor.generated self).set object v).on m = (answer, m') := by
  refine AccessorShape.set_on
    ((callWith_on h.setMember).trans (execute_on MethodType.parse_set arguments_set ?_))
  refine (congrArg (Ends _ _ · _ _ _ _) s.writeHandle_code).mpr ?_
  refine (fetchCode_moves (Frame.enter_self _ _ _) (Frame.enter_arg _ _ rfl) h.isInstance h.setter
    hadmits).ends ?_
  exact .cons (step_load (Frame.enter_arg _ _ rfl)) (hrest _)

/-- Writing a value that fits to an object that passes the check of its class is writing through the
handle. -/
theorem set_on {write : MemberHandle} (h : s.Holds get (some write) m self)
    (hwritable : s.property.access.isReadOnly = false)
    (hadmits : m.conforms (.object object) s.entity = true)
    (hfits : m.fits v s.property.type = true) :
    ((Accessor.generated self).set object v).on m = (Run.handleSet write object v).on m := by
  cases hwrite : (Run.handleSet write object v).on m with
  | mk answer m' =>
    refine h.set_runs hadmits fun f => ?_
    rw [hwritable, if_neg Bool.false_ne_true]
    refine (checkCode_moves hfits).ends ?_
    cases answer with
    | error e => exact (Ends.fail (step_handleSet_error _ _ hwrite)).append _
    | ok _ => exact .cons (step_handleSet _ _ hwrite) (.finish step_returnVoid)

/-- A value that does not fit is refused before the handle is used. -/
theorem set_refuses_value (h : s.Holds get set m self)
    (hwritable : s.property.access.isReadOnly = false)
    (hadmits : m.conforms (.object object) s.entity = true)
    (hfits : m.fits v s.property.type = false) :
    ((Accessor.generated self).set object v).on m = (.error (s.refusal v), m) := by
  refine h.set_runs hadmits fun f => ?_
  rw [hwritable, if_neg Bool.false_ne_true]
  exact (checkCode_refuses hfits).append _

/-- Without a handle for writing, every value is refused. -/
theorem set_readOnly (h : s.Holds get none m self)
    (hreadOnly : s.property.access.isReadOnly = true)
    (hadmits : m.conforms (.object object) s.entity = true) :
    ((Accessor.generated self).set object v).on m =
      (.error (.readOnlyProperty s.entity s.property.name), m) := by
  refine h.set_runs hadmits fun f => ?_
  rw [hreadOnly, if_pos rfl]
  exact (Ends.fail (step_handleSet_null _ _)).append _

/-- An object that does not pass the check of its class is not written. -/
theorem set_refuses (h : s.Holds get set m self)
    (hadmits : m.conforms (.object object) s.entity = false) :
    ((Accessor.generated self).set object v).on m =
      (.error (.cannotCast "object" s.entity), m) := by
  refine AccessorShape.set_on
    ((callWith_on h.setMember).trans (execute_on MethodType.parse_set arguments_set ?_))
  refine (congrArg (Ends _ _ · _ _ _ _) s.writeHandle_code).mpr ?_
  exact (fetchCode_refuses (Frame.enter_self _ _ _) (Frame.enter_arg _ _ rfl) h.isInstance h.setter
    hadmits).append _

end Holds

end AccessorShape

end EntityForge
