import EntityForge.Proofs.Machine.Objects

/-!
What each instruction does to the top of the stack. A frame is written as an earlier frame with
values pushed on it, so that the lemmas chain along straight-line code.
-/

namespace EntityForge

namespace Frame

theorem enter_self (method : MethodDef) (self : Nat) (args : List Value) :
    (enter method self args).locals[0]? = some (.object self) := rfl

theorem enter_arg (method : MethodDef) (self : Nat) {args : List Value} {i : Nat} {v : Value}
    (h : args[i]? = some v) : (enter method self args).locals[i + 1]? = some v := by
  have hbound : i < args.length := (List.getElem?_eq_some_iff.mp h).1
  simp only [enter, List.cons_append, List.getElem?_cons_succ]
  rw [List.getElem?_append_left hbound, h]

/-- A frame with further values on its stack, the last one on top. -/
def pushAll (f : Frame) (values : List Value) : Frame :=
  { f with stack := values.reverse ++ f.stack }

@[simp] theorem pushAll_nil (f : Frame) : f.pushAll [] = f := rfl

theorem push_pushAll (f : Frame) (values : List Value) (v : Value) :
    (f.push v).pushAll values = f.pushAll (v :: values) := by
  simp [pushAll, push]

theorem popMany_pushAll (f : Frame) (values : List Value) :
    (f.pushAll values).popMany values.length = .ok (values, f) := by
  simp only [popMany, pushAll]
  simp

/-- A frame inside of which a further annotation is open. -/
def opening (f : Frame) (draft : AnnotationDraft) : Frame :=
  { f with drafts := draft :: f.drafts }

end Frame

namespace Run

variable {callee : Callee} {type : MethodType} {f : Frame} {m m' : Machine} {v : Value}

theorem methodType_ok {descriptor : String} {called : MethodType}
    (h : MethodType.parse descriptor = .ok called) : methodType descriptor = .ok called := by
  rw [methodType, h]
  rfl

/-! Locals and literals. -/

theorem step_load {i : UInt8} (h : f.locals[i.toNat]? = some v) :
    (step callee type f (.load i)).on m = (.ok (.running (f.push v)), m) := by
  have hlocal : f.localAt i.toNat = .ok v := by rw [Frame.localAt, h]
  simp only [step, hlocal, on_lift_bind_ok, on_pure]

theorem step_pushNull : (step callee type f .pushNull).on m = (.ok (.running (f.push .null)), m) :=
  rfl

theorem step_pushBool (b : Bool) :
    (step callee type f (.pushBool b)).on m = (.ok (.running (f.push (.bool b))), m) := rfl

theorem step_loadConstant (c : Constant) :
    (step callee type f (.loadConstant c)).on m =
      (.ok (.running (f.push (.ofLiteral c))), m) := rfl

theorem step_newEnum (typeName variant : String) :
    (step callee type f (.newEnum typeName variant)).on m =
      (.ok (.running (f.push (.enumeration typeName variant))), m) := rfl

theorem step_newList {n : UInt16} (items : List Value) (hn : n.toNat = items.length) :
    (step callee type (f.pushAll items) (.newList n)).on m =
      (.ok (.running (f.push (.list items))), m) := by
  simp only [step, hn, Frame.popMany_pushAll, on_lift_bind_ok, on_pure]

theorem step_newType {kind : TypeKind} {raw : String} {bound : Bound} {dims argc : UInt8}
    (args : List TypeTree) (hargc : argc.toNat = args.length) :
    (step callee type (f.pushAll (args.map .type)) (.newType kind raw bound dims argc)).on m =
      (.ok (.running (f.push (.type { raw, args, dims, kind, bound }))), m) := by
  have hpop : (f.pushAll (args.map .type)).popMany argc.toNat = .ok (args.map .type, f) := by
    rw [hargc, ← List.length_map (f := Value.type)]
    exact Frame.popMany_pushAll f _
  have hitems : (args.map Value.type).mapM Value.toType = .ok args :=
    Checked.mapM_map_ok Value.toType .type (fun _ => rfl) args
  simp only [step, hpop, hitems, on_lift_bind_ok, on_pure]

/-! Annotations. -/

theorem step_annotationBegin {typeName : String} {draft : AnnotationDraft}
    (h : m.registry.annotations.draft typeName = .ok draft) :
    (step callee type f (.annotationBegin typeName)).on m =
      (.ok (.running (f.opening draft)), m) := by
  simp only [step, on_get_bind, h, on_lift_bind_ok]
  rfl

theorem step_annotationSet {element : String} {draft draft' : AnnotationDraft}
    {value : ElementValue} (hvalue : v.toElementValue? = some value)
    (h : draft.setValue element value = .ok draft') :
    (step callee type ((f.opening draft).push v) (.annotationSet element)).on m =
      (.ok (.running (f.opening draft')), m) := by
  have hpop : ((f.opening draft).push v).pop = .ok (v, f.opening draft) := rfl
  have hdraft : (f.opening draft).popDraft = .ok (draft, f) := rfl
  have hset : draft.set element v = .ok draft' := by
    rw [AnnotationDraft.set, hvalue]
    exact h
  simp only [step, hpop, hdraft, hset, on_lift_bind_ok]
  rfl

theorem step_annotationEnd {id : Nat} {draft : AnnotationDraft}
    (h : (annotate id draft.build).on m = (.ok (), m')) :
    (step callee type ((f.push (.object id)).opening draft) .annotationEnd).on m =
      (.ok (.running f), m') := by
  have hdraft : ((f.push (.object id)).opening draft).popDraft =
    .ok (draft, f.push (.object id)) := rfl
  have hpop : (f.push (.object id)).popObject = .ok (id, f) := rfl
  simp only [step, hdraft, hpop, on_lift_bind_ok]
  rw [on_bind_ok h]
  rfl

/-! Names that follow the configuration. -/

theorem step_collectionName (config : MappingConfig) (s : String) :
    (step callee type ((f.push (.config config)).push (.text s))
        (.intrinsic .collectionName)).on m =
      (.ok (.running (f.push (.text (config.collectionName s)))), m) := rfl

theorem step_discriminator (config : MappingConfig) (s : String) :
    (step callee type ((f.push (.config config)).push (.text s))
        (.intrinsic .discriminator)).on m =
      (.ok (.running (f.push (.text (config.discriminator s)))), m) := rfl

theorem step_discriminatorKey (config : MappingConfig) :
    (step callee type (f.push (.config config)) (.intrinsic .discriminatorKey)).on m =
      (.ok (.running (f.push (.text config.discriminatorKey))), m) := rfl

/-! Fields. -/

theorem step_getField {className name : String} {id : Nat}
    (hinstance : m.isInstance id className = true) (h : m.field? id name = some v) :
    (step callee type (f.push (.object id)) (.getField className name)).on m =
      (.ok (.running (f.push v)), m) := by
  have hpop : (f.push (.object id)).popObject = .ok (id, f) := rfl
  simp only [step, hpop, on_lift_bind_ok]
  rw [on_bind_ok (checkInstance_on hinstance), on_bind_ok (getField_field? h)]
  rfl

theorem step_putField {className name : String} {id : Nat}
    (hinstance : m.isInstance id className = true)
    (h : (setField id name v).on m = (.ok (), m')) :
    (step callee type ((f.push (.object id)).push v) (.putField className name)).on m =
      (.ok (.running f), m') := by
  have hpop : ((f.push (.object id)).push v).pop = .ok (v, f.push (.object id)) := rfl
  have hpop' : (f.push (.object id)).popObject = .ok (id, f) := rfl
  simp only [step, hpop, hpop', on_lift_bind_ok]
  rw [on_bind_ok (checkInstance_on hinstance), on_bind_ok h]
  rfl

/-! Casts and boxes. -/

theorem step_checkCast {target : String} (h : m.conforms v target = true) :
    (step callee type (f.push v) (.checkCast target)).on m =
      (.ok (.running (f.push v)), m) := by
  have hpeek : (f.push v).peek = .ok v := rfl
  simp only [step, hpeek, on_lift_bind_ok, on_get_bind, h, if_true, on_pure]

theorem step_checkCast_error {target : String} (h : m.conforms v target = false) :
    (step callee type (f.push v) (.checkCast target)).on m =
      (.error (.cannotCast v.kindName target), m) := by
  have hpeek : (f.push v).peek = .ok v := rfl
  simp only [step, hpeek, on_lift_bind_ok, on_get_bind, h, Bool.false_eq_true, if_false, on_throw]

theorem step_box {p : Primitive} (h : v.primitive? = some p) :
    (step callee type (f.push v) (.box p)).on m = (.ok (.running (f.push v)), m) := by
  have hpop : (f.push v).pop = .ok (v, f) := rfl
  have hboxed : v.boxed p = .ok v := if_pos h
  simp only [step, hpop, hboxed, on_lift_bind_ok, on_pure]

theorem step_unbox {p : Primitive} (h : v.primitive? = some p) :
    (step callee type (f.push v) (.unbox p)).on m = (.ok (.running (f.push v)), m) := by
  have hpop : (f.push v).pop = .ok (v, f) := rfl
  have hunboxed : v.unboxed p = .ok v := if_pos h
  simp only [step, hpop, hunboxed, on_lift_bind_ok, on_pure]

theorem step_unbox_error {p : Primitive} (h : v.primitive? ≠ some p) :
    (step callee type (f.push v) (.unbox p)).on m = (.error (.cannotUnbox v.kindName p), m) := by
  have hpop : (f.push v).pop = .ok (v, f) := rfl
  have hunboxed : v.unboxed p = .error (.cannotUnbox v.kindName p) := if_neg h
  simp only [step, hpop, hunboxed, on_lift_bind_ok, on_lift_bind_error]

/-! Calls. -/

theorem step_invoke {className name descriptor : String} {called : MethodType} {id : Nat}
    {args : List Value} (hparse : MethodType.parse descriptor = .ok called)
    (harity : called.arity = args.length) (hinstance : m.isInstance id className = true)
    (h : (callWith callee id name descriptor args).on m = (.ok v, m')) :
    (step callee type ((f.push (.object id)).pushAll args) (.invoke className name descriptor)).on
        m =
      (.ok (.running (if called.result.isSome then f.push v else f)), m') := by
  have hpop : (f.push (.object id)).popObject = .ok (id, f) := rfl
  simp only [step, methodType_ok hparse, harity, Frame.popMany_pushAll, hpop, on_lift_bind_ok]
  rw [on_bind_ok (checkInstance_on hinstance), on_bind_ok h]
  rfl

theorem step_new {className descriptor : String} {called : MethodType} {id : Nat}
    (hparse : MethodType.parse descriptor = .ok called) (harity : called.arity = 0)
    (h : (constructWith callee className descriptor []).on m = (.ok id, m')) :
    (step callee type f (.new className descriptor)).on m =
      (.ok (.running (f.push (.object id))), m') := by
  have hpop : f.popMany 0 = .ok ([], f) := Frame.popMany_pushAll f []
  simp only [step, methodType_ok hparse, harity, hpop, on_lift_bind_ok]
  rw [on_bind_ok h]
  rfl

theorem step_handleGet {h : MemberHandle} {id : Nat}
    (hget : (handleGetWith callee h id).on m = (.ok v, m')) :
    (step callee type ((f.push (.handle h)).push (.object id)) .handleGet).on m =
      (.ok (.running (f.push v)), m') := by
  have hpop : ((f.push (.handle h)).push (.object id)).popObject = .ok (id, f.push (.handle h)) :=
    rfl
  have hpop' : (f.push (.handle h)).popHandle = .ok (some h, f) := rfl
  simp only [step, hpop, hpop', on_lift_bind_ok]
  rw [on_bind_ok hget]
  rfl

theorem step_handleGet_error {h : MemberHandle} {id : Nat} {e : Failure}
    (hget : (handleGetWith callee h id).on m = (.error e, m')) :
    (step callee type ((f.push (.handle h)).push (.object id)) .handleGet).on m =
      (.error e, m') := by
  have hpop : ((f.push (.handle h)).push (.object id)).popObject = .ok (id, f.push (.handle h)) :=
    rfl
  have hpop' : (f.push (.handle h)).popHandle = .ok (some h, f) := rfl
  simp only [step, hpop, hpop', on_lift_bind_ok]
  exact on_bind_error hget

theorem step_handleSet {h : MemberHandle} {id : Nat} (entity property : String)
    (hset : (handleSetWith callee h id v).on m = (.ok (), m')) :
    (step callee type (((f.push (.handle h)).push (.object id)).push v)
        (.handleSet entity property)).on m = (.ok (.running f), m') := by
  have hpop : (((f.push (.handle h)).push (.object id)).push v).pop =
    .ok (v, (f.push (.handle h)).push (.object id)) := rfl
  have hpop' : ((f.push (.handle h)).push (.object id)).popObject = .ok (id, f.push (.handle h)) :=
    rfl
  have hpop'' : (f.push (.handle h)).popHandle = .ok (some h, f) := rfl
  simp only [step, hpop, hpop', hpop'', on_lift_bind_ok]
  rw [on_bind_ok hset]
  rfl

theorem step_handleSet_error {h : MemberHandle} {id : Nat} {e : Failure} (entity property : String)
    (hset : (handleSetWith callee h id v).on m = (.error e, m')) :
    (step callee type (((f.push (.handle h)).push (.object id)).push v)
        (.handleSet entity property)).on m = (.error e, m') := by
  have hpop : (((f.push (.handle h)).push (.object id)).push v).pop =
    .ok (v, (f.push (.handle h)).push (.object id)) := rfl
  have hpop' : ((f.push (.handle h)).push (.object id)).popObject = .ok (id, f.push (.handle h)) :=
    rfl
  have hpop'' : (f.push (.handle h)).popHandle = .ok (some h, f) := rfl
  simp only [step, hpop, hpop', hpop'', on_lift_bind_ok]
  exact on_bind_error hset

/-- Without a handle there is no way to write. -/
theorem step_handleSet_null {id : Nat} (entity property : String) :
    (step callee type (((f.push .null).push (.object id)).push v) (.handleSet entity property)).on
        m = (.error (.readOnlyProperty entity property), m) := rfl

theorem step_resolveField {className name : String} {h : MemberHandle}
    (hbound : (resolveField className name).on m = (.ok h, m')) :
    (step callee type f (.resolveField className name)).on m =
      (.ok (.running (f.push (.handle h))), m') := by
  have hadapt := on_adapt_ok (.missingLookup className name ·) hbound
  simp only [step]
  exact on_bind_ok hadapt

theorem step_resolveMethod {className name descriptor : String} {required : Bool}
    (hbound : (bindMethod className name descriptor required).on m = (.ok v, m')) :
    (step callee type f (.resolveMethod className name descriptor required)).on m =
      (.ok (.running (f.push v)), m') := by
  simp only [step]
  exact on_bind_ok hbound

/-! Returns. -/

theorem step_returnValue (h : type.result.all (m.fits v) = true) :
    (step callee type (f.push v) .returnValue).on m = (.ok (.finished v), m) := by
  have hpop : (f.push v).pop = .ok (v, f) := rfl
  simp only [step, hpop, on_lift_bind_ok, on_get_bind, h, if_true, on_pure]

theorem step_returnVoid : (step callee type f .returnVoid).on m = (.ok (.finished .null), m) := rfl

/-! Whole methods. -/

theorem checkArguments_on {method : MethodDef} {args : List Value}
    (h : List.Forall₂ (fun param arg => m.fits arg param = true) type.params args) :
    (checkArguments method type args).on m = (.ok (), m) := by
  simp only [checkArguments, on_get_bind, h.length_eq, ne_eq, not_true_eq_false, if_false]
  rw [List.find?_eq_none.mpr ?fits, on_pure]
  case fits =>
    rintro ⟨param, arg⟩ hmem
    have hfits := (List.forall₂_iff_zip.mp h).2 hmem
    simpa using hfits

/-- A method runs as its code does, once the arguments are accepted. -/
theorem execute_on {levels self : Nat} {method : MethodDef} {args : List Value}
    {result : Except Failure Value} (hparse : MethodType.parse method.descriptor = .ok type)
    (hargs : List.Forall₂ (fun param arg => m.fits arg param = true) type.params args)
    (hcode : Ends (execute levels) type method.code (.enter method self args) m result m') :
    (execute (levels + 1) self method args).on m = (result, m') := by
  simp only [execute, methodType_ok hparse, on_lift_bind_ok]
  rw [on_bind_ok (checkArguments_on hargs), hcode.run]

/-- A method of one parameter refuses an argument that does not fit it. -/
theorem execute_misfit {levels self : Nat} {method : MethodDef} {param : TypeTree}
    {result : Option TypeTree} (hparse : MethodType.parse method.descriptor = .ok ⟨[param], result⟩)
    (hfits : m.fits v param = false) :
    (execute (levels + 1) self method [v]).on m =
      (.error (.argumentMisfit method.name method.descriptor v.kindName param), m) := by
  simp only [execute, methodType_ok hparse, on_lift_bind_ok]
  refine on_bind_error ?_
  simp [checkArguments, hfits]

end Run

end EntityForge
