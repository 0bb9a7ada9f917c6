import EntityForge.Machine.State
import EntityForge.Proofs.Type.Erasure
import EntityForge.Value.Conformance

/-!
Which values fit. A type and its erasure accept the same values; every type accepts the value that
its fields start with, and the class of all objects accepts everything. An array type asks one thing
of every item: that it fits the type with one dimension less. So it is decided at the types without
dimensions what fits, and more fits when objects are instances of more classes.
-/

namespace EntityForge.Value

variable (isInstance : Nat → String → Bool)

/-- A class name is a target of its own, not an array descriptor. -/
theorem conformsTo_class {target : String} (h : target.toList.head? ≠ some '[') (v : Value) :
    conformsTo isInstance target.toList v =
      (decide (target = TypeTree.objectClass) || conformsToClass isInstance target v) := by
  unfold conformsTo
  split
  · next heq =>
    rw [heq] at h
    exact absurd rfl h
  · next heq _ => rw [String.ofList_toList]

theorem conformsTo_null (target : List Char) : conformsTo isInstance target null = true := by
  unfold conformsTo
  split
  · rfl
  · simp [conformsToClass]

theorem conformsTo_object (v : Value) :
    conformsTo isInstance TypeTree.objectClass.toList v = true := by
  rw [conformsTo_class isInstance (by decide)]
  simp

theorem fits_object (v : Value) : fits isInstance v (.ofClass TypeTree.objectClass) = true :=
  conformsTo_object isInstance v

theorem fits_null (name : String) : fits isInstance null (.ofClass name) = true :=
  conformsTo_null isInstance _

/-- What fits a class that is not an array. -/
theorem fits_class {name : String} (h : name.toList.head? ≠ some '[') (v : Value) :
    fits isInstance v (.ofClass name) =
      (decide (name = TypeTree.objectClass) || conformsToClass isInstance name v) :=
  conformsTo_class isInstance h v

/-- A type and its erasure accept the same values. -/
theorem fits_erased (v : Value) (t : TypeTree) :
    fits isInstance v t.erased = fits isInstance v t := by
  unfold fits
  rw [TypeTree.erased_primitive?, TypeTree.erased_castName]

/-- A value of a primitive conforms to the boxed class. -/
theorem conformsToClass_boxed {v : Value} {p : Primitive} {target : String}
    (hvalue : v.primitive? = some p) (htarget : Primitive.ofBoxed? target = some p) :
    conformsToClass isInstance target v = true := by
  cases v <;> simp_all [primitive?, conformsToClass]

theorem fits_zero {t : TypeTree} (h : t.Denotable) : fits isInstance (zero t) t = true := by
  unfold fits zero
  cases hp : t.primitive? with
  | none => exact conformsTo_null isInstance _
  | some p =>
    cases p with
    | void =>
      unfold TypeTree.primitive? at hp
      split at hp
      · next q hkind =>
        split at hp
        · cases hp
          exact absurd hkind h.primitive
        · cases hp
      · cases hp
    | _ => rfl

/-- What a type that is not a primitive checks of a value that is not a list. -/
theorem conformsTo_boxedName {t : TypeTree} (harray : t.isArray = false)
    (h : t.Denotable) (v : Value) :
    conformsTo isInstance t.castName.toList v =
      (decide (t.boxedName = TypeTree.objectClass) ||
        conformsToClass isInstance t.boxedName v) := by
  have hcast : t.castName = t.boxedName := by
    rw [TypeTree.castName, harray, if_neg Bool.false_ne_true]
  rw [hcast]
  exact conformsTo_class isInstance (h.boxedName_head harray) v

/-- The primitive that integers are narrowed to in a field of a type. -/
def narrowed? (t : TypeTree) : Option Primitive :=
  match t.primitive? with
  | some p => some p
  | none => if t.isArray then none else Primitive.ofBoxed? t.raw

/-- An initializer is a value of the primitive that it is narrowed to, or a text. -/
theorem ofInitializer_cases {c : Constant} {t : TypeTree} {v : Value}
    (h : ofInitializer c t = .ok v) :
    (∃ p, narrowed? t = some p ∧ v.primitive? = some p) ∨
    (narrowed? t = none ∧ t.raw = stringClass ∧ t.isArray = false ∧ ∃ s, v = text s) := by
  unfold ofInitializer at h
  dsimp only at h
  split at h
  · next w hw =>
    cases h
    split at hw
    case h_11 heq =>
      split at hw
      · next hstring =>
        cases hw
        exact .inr ⟨heq, hstring.1, by simpa using hstring.2, _, rfl⟩
      · cases hw
    case h_12 => cases hw
    case h_3 heq =>
      obtain ⟨ch, _, rfl⟩ := Option.map_eq_some_iff.mp hw
      exact .inl ⟨.char, heq, rfl⟩
    case h_2 heq | h_4 heq =>
      split at hw
      · cases hw
        exact .inl ⟨_, heq, rfl⟩
      · cases hw
    all_goals
      next heq =>
      cases hw
      exact .inl ⟨_, heq, rfl⟩
  · cases h

/-- What an initializer is narrowed to fits the field. -/
theorem fits_ofInitializer {c : Constant} {t : TypeTree} {v : Value} (ht : t.Denotable)
    (h : ofInitializer c t = .ok v) : fits isInstance v t = true := by
  unfold fits
  cases hp : t.primitive? with
  | some p =>
    obtain ⟨q, hq, hvalue⟩ | ⟨hnone, _⟩ := ofInitializer_cases h
    · have hsame : p = q := by simpa [narrowed?, hp] using hq
      simp [hsame, hvalue]
    · simp [narrowed?, hp] at hnone
  | none =>
    dsimp only
    obtain ⟨q, hq, hvalue⟩ | ⟨_, hstring, harray, s, rfl⟩ := ofInitializer_cases h
    · have hq' : t.isArray = false ∧ Primitive.ofBoxed? t.raw = some q := by
        simpa [narrowed?, hp] using hq
      rw [conformsTo_boxedName isInstance hq'.1 ht]
      cases hkind : t.kind with
      | primitive p =>
        have hdims : t.dims = 0 := by simpa [TypeTree.isArray] using hq'.1
        simp [TypeTree.primitive?, hkind, hdims] at hp
      | classType =>
        have hname : t.boxedName = t.raw := by simp [TypeTree.boxedName, hp, hkind]
        rw [hname, conformsToClass_boxed isInstance hvalue hq'.2, Bool.or_true]
      | «variable» | wildcard => simp [TypeTree.boxedName, hp, hkind]
    · rw [conformsTo_boxedName isInstance harray ht]
      unfold TypeTree.boxedName
      rw [hp]
      cases t.kind <;> simp [hstring, conformsToClass]

end EntityForge.Value

/-! Arrays of values. -/

namespace EntityForge

namespace TypeTree

/-- The type of the items of an array type. -/
def item (t : TypeTree) : TypeTree := { t with dims := t.dims - 1 }

variable {t : TypeTree}

theorem Denotable.item (h : t.Denotable) : t.item.Denotable := ⟨h.primitive, h.named⟩

theorem toNat_item_dims (harray : t.isArray = true) : t.item.dims.toNat + 1 = t.dims.toNat := by
  have hne : t.dims ≠ 0 := by simpa [isArray] using harray
  have hpos : 1 ≤ t.dims.toNat := by
    rw [ne_eq, ← UInt8.toNat_inj] at hne
    exact Nat.pos_of_ne_zero hne
  have hle : (1 : UInt8) ≤ t.dims := UInt8.le_iff_toNat_le.mpr hpos
  rw [item, UInt8.toNat_sub_of_le _ _ hle]
  exact Nat.sub_add_cancel hpos

/-- The descriptor of an array is a bracket in front of the descriptor of its items. -/
theorem erasedChars_array (harray : t.isArray = true) :
    t.erasedChars = '[' :: t.item.erasedChars := by
  have hdims := toNat_item_dims harray
  unfold erasedChars brackets
  rw [← hdims, List.replicate_succ]
  rfl

theorem primitive?_array (harray : t.isArray = true) : t.primitive? = none := by
  have hne : t.dims ≠ 0 := by simpa [isArray] using harray
  unfold primitive?
  split
  · exact if_neg hne
  · rfl

/-- The class that stands for a type without dimensions has a name. -/
theorem Denotable.boxedName_nonempty (h : t.Denotable) (harray : t.isArray = false) :
    t.boxedName ≠ "" := by
  have hdims : t.dims = 0 := by simpa [isArray] using harray
  unfold boxedName primitive?
  cases hkind : t.kind with
  | primitive p =>
    simp only [hdims, if_true]
    cases p <;> decide
  | classType =>
    intro hempty
    have hraw : t.raw = "" := hempty
    exact (h.named hkind).1 (by rw [hraw]; rfl)
  | «variable» | wildcard =>
    simp only
    decide

/-- The class that a reference in a descriptor names. -/
theorem classReference_slashed {name : String} (hname : ∀ c ∈ name.toList, IsNameChar c) :
    Value.classReference? ('L' :: slashed name ++ [';']) = some name.toList := by
  have hdotted := congrArg String.toList
    (dotted_slashed fun c hc => isNameChar_iff.mp (hname c hc))
  rw [dotted, String.toList_ofList] at hdotted
  rw [List.cons_append, Value.classReference?]
  simp only [List.getLast?_append, List.getLast?_singleton, Option.some_or, if_true,
    List.dropLast_append_cons, List.dropLast_singleton, List.append_nil, hdotted]

end TypeTree

namespace Value

open TypeTree

variable (isInstance : Nat → String → Bool)

/-- Whether a value may be an item of an array whose descriptor goes on with an element. -/
def fitsElement (element : List Char) (item : Value) : Bool :=
  match element with
  | '[' :: inner => conformsTo isInstance ('[' :: inner) item
  | element =>
    match classReference? element with
    | some name => conformsTo isInstance name item
    | none => fitsPrimitiveElement element item

theorem conformsTo_array (element : List Char) (v : Value) :
    conformsTo isInstance ('[' :: element) v =
      match v with
      | null => true
      | list items => items.all (fitsElement isInstance element)
      | _ => false := by
  unfold conformsTo
  cases v with
  | list items =>
    refine congrArg (List.all items) (funext fun item => ?_)
    unfold fitsElement
    split
    · rfl
    · split <;> next heq => simp only [heq]
  | _ => rfl

private theorem fitsElement_class {name : String} (hname : ∀ c ∈ name.toList, IsNameChar c)
    (item : Value) :
    fitsElement isInstance ('L' :: slashed name ++ [';']) item =
      conformsTo isInstance name.toList item := by
  change (match classReference? ('L' :: slashed name ++ [';']) with
    | some name => conformsTo isInstance name item
    | none => fitsPrimitiveElement ('L' :: slashed name ++ [';']) item) = _
  rw [classReference_slashed hname]

/-- An item may stand where the descriptor of a type does if it fits the type. -/
theorem fitsElement_erased {t : TypeTree} (h : t.Denotable) (item : Value) :
    fitsElement isInstance t.erasedChars item = fits isInstance item t := by
  cases harray : t.isArray with
  | true =>
    have hcast : t.castName.toList = t.erasedChars := by
      rw [castName, harray, if_pos rfl, erasedDescriptor, String.toList_ofList]
    rw [fits, primitive?_array harray, hcast, erasedChars_array harray]
    rfl
  | false =>
    have hdims : t.dims = 0 := by simpa [isArray] using harray
    have hcast : t.castName = t.boxedName := by rw [castName, harray, if_neg Bool.false_ne_true]
    unfold erasedChars brackets
    rw [hdims, fits, hcast]
    cases hkind : t.kind with
    | primitive p =>
      have hp : t.primitive? = some p := by rw [TypeTree.primitive?, hkind, hdims]; rfl
      rw [hp]
      cases p <;> rfl
    | classType =>
      have hp : t.primitive? = none := by rw [TypeTree.primitive?, hkind]
      have hname : t.boxedName = t.raw := by rw [boxedName, hp, hkind]
      rw [hp, hname]
      exact fitsElement_class isInstance (h.named hkind).2 item
    | «variable» | wildcard =>
      have hp : t.primitive? = none := by rw [TypeTree.primitive?, hkind]
      have hname : t.boxedName = objectClass := by rw [boxedName, hp, hkind]
      rw [hp, hname]
      exact fitsElement_class isInstance objectClass_isNameChar item

/-- What fits an array type: null, and lists of items that fit the type of the items. -/
theorem fits_array {t : TypeTree} (h : t.Denotable) (harray : t.isArray = true) (v : Value) :
    fits isInstance v t =
      match v with
      | null => true
      | list items => items.all fun item => fits isInstance item t.item
      | _ => false := by
  have hcast : t.castName.toList = '[' :: t.item.erasedChars := by
    rw [castName, harray, if_pos rfl, erasedDescriptor, String.toList_ofList,
      erasedChars_array harray]
  have hitems : fitsElement isInstance t.item.erasedChars =
      fun item => fits isInstance item t.item := by
    funext item
    exact fitsElement_erased isInstance h.item item
  rw [fits, primitive?_array harray, hcast]
  dsimp only
  rw [conformsTo_array, hitems]

variable {isInstance} {isInstance' : Nat → String → Bool}

private theorem conformsToClass_mono {target : String}
    (h : ∀ id, isInstance id target = true → isInstance' id target = true) {v : Value}
    (hv : conformsToClass isInstance target v = true) :
    conformsToClass isInstance' target v = true := by
  cases v with
  | object id => exact h id hv
  | _ => exact hv

/-- What fits a type still fits it when objects are instances of more classes. No type asks for a
class without a name. -/
theorem fits_mono
    (h : ∀ id name, name ≠ "" → isInstance id name = true → isInstance' id name = true)
    {t : TypeTree} (ht : t.Denotable) {v : Value} (hv : fits isInstance v t = true) :
    fits isInstance' v t = true := by
  -- The dimensions are taken off one by one; only at the innermost type does an object matter.
  induction hn : t.dims.toNat generalizing t v with
  | zero =>
    have harray : t.isArray = false := by
      have hdims : t.dims = 0 := UInt8.toNat_inj.mp hn
      simp [isArray, hdims]
    unfold fits at hv ⊢
    cases hp : t.primitive? with
    | some p =>
      rw [hp] at hv
      exact hv
    | none =>
      rw [hp] at hv
      dsimp only at hv ⊢
      rw [conformsTo_boxedName _ harray ht, Bool.or_eq_true] at hv ⊢
      exact hv.imp_right
        (conformsToClass_mono fun id => h id _ (ht.boxedName_nonempty harray))
  | succ n ih =>
    have harray : t.isArray = true := by
      have hdims : t.dims ≠ 0 := by
        rintro hzero
        rw [hzero] at hn
        cases hn
      simp [isArray, hdims]
    rw [fits_array _ ht harray] at hv ⊢
    cases v with
    | list items =>
      dsimp only at hv ⊢
      rw [List.all_eq_true] at hv ⊢
      have hdims := toNat_item_dims harray
      exact fun item hitem => ih ht.item (hv item hitem) (by omega)
    | null => rfl
    | _ => cases hv

end Value

end EntityForge

/-!
The check of a value against a type reads the erased descriptor of the type, bracket by bracket.
Here the same check is stated on the tree: by the kind of the type when no dimension is left, item by
item when one is. The two agree on every type that resolving yields.
-/

namespace EntityForge

namespace TypeTree

variable (conforms : Value → String → Bool)

/-- Whether a type without dimensions takes a value, when `conforms` tells what the classes take. -/
def takesElement (t : TypeTree) (v : Value) : Bool :=
  match t.kind with
  | .primitive p => v.primitive? = some p
  | .classType => conforms v t.raw
  | .variable | .wildcard => true

def takesAt (t : TypeTree) : (dims : Nat) → Value → Bool
  | 0, v => t.takesElement conforms v
  | dims + 1, v =>
    match v with
    | .null => true
    | .list items => items.all (t.takesAt dims)
    | _ => false

def takes (t : TypeTree) (v : Value) : Bool := t.takesAt conforms t.dims.toNat v

variable {conforms} {t : TypeTree}

/-- The dimensions of the type itself do not matter beside those that are counted. -/
theorem takesAt_item (dims : Nat) (v : Value) :
    t.item.takesAt conforms dims v = t.takesAt conforms dims v := by
  induction dims generalizing v with
  | zero => rfl
  | succ dims ih =>
    unfold takesAt
    cases v with
    | list items => exact congrArg (List.all items) (funext ih)
    | _ => rfl

theorem takes_element (harray : t.isArray = false) (v : Value) :
    t.takes conforms v = t.takesElement conforms v := by
  have hdims : t.dims = 0 := by simpa [isArray] using harray
  rw [takes, hdims]
  rfl

/-- An array type takes null, and lists whose items the type with one dimension less takes. -/
theorem takes_array (harray : t.isArray = true) (v : Value) :
    t.takes conforms v =
      match v with
      | .null => true
      | .list items => items.all (t.item.takes conforms)
      | _ => false := by
  have hitem : t.item.takes conforms = t.takesAt conforms t.item.dims.toNat :=
    funext fun v => takesAt_item _ v
  rw [takes, ← toNat_item_dims harray, hitem]
  rfl

end TypeTree

namespace Signature

/-- A type is in what the parsers of types, type lists and method signatures return. -/
inductive Yields (t : TypeTree) : Prop
  | type {s : String} (parsed : parseType s = .ok t)
  | listed {s : String} {ts : List TypeTree} (parsed : parseTypes s = .ok ts) (mem : t ∈ ts)
  | param {s : String} {type : MethodType} (parsed : MethodType.parse s = .ok type)
      (mem : t ∈ type.params)
  | result {s : String} {type : MethodType} (parsed : MethodType.parse s = .ok type)
      (mem : type.result = some t)

/-- Whatever the parsers return is well-formed. -/
theorem Yields.wellFormed {t : TypeTree} (h : Yields t) : t.WellFormed := by
  cases h with
  | type parsed => exact (spelled_of_parseType parsed).1
  | listed parsed mem => exact (parseTypes_ok_iff.mp parsed).2.1 t mem
  | param parsed mem => exact (MethodType.parse_wellFormed parsed).1 t mem
  | result parsed mem => exact (MethodType.parse_wellFormed parsed).2 t mem

end Signature

namespace Machine

open TypeTree

variable {m : Machine} {t : TypeTree}

/-- Without dimensions the kind of a type decides what fits it. -/
theorem fits_element (harray : t.isArray = false) (v : Value) :
    m.fits v t = t.takesElement m.conforms v := by
  have hdims : t.dims = 0 := by simpa [isArray] using harray
  have hcast : t.castName = t.boxedName := by rw [castName, harray, if_neg Bool.false_ne_true]
  unfold fits Value.fits takesElement
  rw [hcast]
  cases hkind : t.kind with
  | primitive p =>
    have hp : t.primitive? = some p := by rw [TypeTree.primitive?, hkind, hdims]; rfl
    rw [hp]
  | classType =>
    have hp : t.primitive? = none := by rw [TypeTree.primitive?, hkind]
    have hname : t.boxedName = t.raw := by rw [boxedName, hp, hkind]
    rw [hp, hname]
    rfl
  | «variable» | wildcard =>
    have hp : t.primitive? = none := by rw [TypeTree.primitive?, hkind]
    have hname : t.boxedName = objectClass := by rw [boxedName, hp, hkind]
    rw [hp, hname]
    exact Value.conformsTo_object m.isInstance v

/-- A type that denotes one takes what the check of its descriptor lets through. -/
theorem fits_eq_takes (h : t.Denotable) (v : Value) : m.fits v t = t.takes m.conforms v := by
  -- The dimensions are taken off one by one, from the type and from the value.
  induction hn : t.dims.toNat generalizing t v with
  | zero =>
    have hdims : t.dims = 0 := UInt8.toNat_inj.mp hn
    have harray : t.isArray = false := by simp [isArray, hdims]
    rw [fits_element harray, takes_element harray]
  | succ n ih =>
    have harray : t.isArray = true := by
      have hdims : t.dims ≠ 0 := by
        intro hzero
        rw [hzero] at hn
        cases hn
      simp [isArray, hdims]
    have hitem : t.item.dims.toNat = n := by
      have hdims := toNat_item_dims harray
      omega
    rw [fits, Value.fits_array m.isInstance h harray, takes_array harray]
    cases v with
    | list items => exact congrArg (List.all items) (funext fun v => ih h.item v hitem)
    | _ => rfl

/-- What a class that is not an array asks is read off its name as it stands. -/
theorem conforms_class (h : t.Denotable) (hkind : t.kind = .classType) (v : Value) :
    m.conforms v t.raw =
      (decide (t.raw = objectClass) || Value.conformsToClass m.isInstance t.raw v) := by
  apply Value.conformsTo_class
  intro hhead
  obtain ⟨rest, hrest⟩ := List.head?_eq_some_iff.mp hhead
  have hchar := (h.named hkind).2 '[' (by rw [hrest]; exact List.mem_cons_self)
  revert hchar
  decide

/-- The check of a value against the erased descriptor of a type and the check against its tree are
the same, for every type that the parsers return. -/
theorem fits_structural (h : Signature.Yields t) (v : Value) :
    m.fits v t = t.takes m.conforms v ∧
    (t.kind = .classType → m.conforms v t.raw =
      (decide (t.raw = objectClass) || Value.conformsToClass m.isInstance t.raw v)) :=
  ⟨fits_eq_takes h.wellFormed.denotable v,
    fun hkind => conforms_class h.wellFormed.denotable hkind v⟩

/-- Integers two deep: a ragged list with null in the place of a list fits, null in the place of an
integer does not. -/
theorem fits_structural_ragged :
    let m : Machine := { registry := {} }
    let t : TypeTree := { TypeTree.ofPrimitive .int with dims := 2 }
    let ragged : Value := .list [.list [.int 1, .int 2], .null, .list []]
    let holed : Value := .list [.list [.int 1, .null]]
    Signature.Yields t ∧ m.fits ragged t = t.takes m.conforms ragged ∧
      t.takes m.conforms ragged = true ∧ m.fits holed t = t.takes m.conforms holed ∧
      t.takes m.conforms holed = false := by
  intro m t ragged holed
  have ht : Signature.Yields t :=
    .type (s := "[[I") (Signature.parseType_ok_iff.mpr
      (Signature.parseTypes_ok_iff.mpr ⟨by decide, by decide, by decide⟩))
  exact ⟨ht, (fits_structural ht ragged).1, rfl, (fits_structural ht holed).1, rfl⟩

/-- The erased descriptor of every type that the parsers return resolves: to a plain type with the
same erased descriptor and the same name for casts, which is the only type of a getter or setter
with that descriptor, and which takes the same values. -/
theorem erasure_faithful (h : Signature.Yields t) :
    ∃ e, Signature.parseType t.erasedDescriptor = .ok e ∧ e.args = [] ∧ e.bound = .exact ∧
      e.erasedDescriptor = t.erasedDescriptor ∧ e.castName = t.castName ∧
      MethodType.parse ("()" ++ t.erasedDescriptor) = .ok ⟨[], some e⟩ ∧
      MethodType.parse ("(" ++ t.erasedDescriptor ++ ")V") = .ok ⟨[e], none⟩ ∧
      ∀ (m : Machine) (v : Value), m.fits v e = m.fits v t := by
  have hdenotable := h.wellFormed.denotable
  have hplain : t.erased.args = [] ∧ t.erased.bound = .exact := by
    unfold erased
    cases t.kind <;> exact ⟨rfl, rfl⟩
  exact ⟨t.erased, Signature.parseType_erased hdenotable, hplain.1, hplain.2,
    congrArg String.ofList (erased_erasedChars t), erased_castName t,
    MethodType.parse_answering hdenotable, MethodType.parse_taking hdenotable,
    fun m v => Value.fits_erased m.isInstance v t⟩

/-- Lists two deep under a lower bound, of a variable and of anything. -/
theorem erasure_faithful_list :
    let m : Machine := { registry := {} }
    let t : TypeTree := { ofClass "app.Pair" with
      args := [{ ofVariable "T" with dims := 1 }, anyType], dims := 2, bound := .lower }
    let rows : Value := .list [.list [.null], .null]
    let cells : Value := .list [.text "cell"]
    Signature.parseType "-[[Lapp/Pair<[TT;*>;" = .ok t ∧ t.erasedDescriptor = "[[Lapp/Pair;" ∧
      ∃ e, Signature.parseType "[[Lapp/Pair;" = .ok e ∧ e ≠ t ∧
        MethodType.parse "([[Lapp/Pair;)V" = .ok ⟨[e], none⟩ ∧
        m.fits rows e = m.fits rows t ∧ m.fits rows t = true ∧
        m.fits cells e = m.fits cells t ∧ m.fits cells t = false := by
  intro m t rows cells
  have ht : Signature.parseType "-[[Lapp/Pair<[TT;*>;" = .ok t :=
    Signature.parseType_ok_iff.mpr
      (Signature.parseTypes_ok_iff.mpr ⟨by decide, by decide, by decide⟩)
  have herased : t.erasedDescriptor = "[[Lapp/Pair;" := by decide
  have htext : "(" ++ "[[Lapp/Pair;" ++ ")V" = "([[Lapp/Pair;)V" := by decide
  obtain ⟨e, he, hargs, _, _, _, _, htaking, hfits⟩ := erasure_faithful (.type ht)
  rw [herased] at he htaking
  rw [htext] at htaking
  have hne : e ≠ t := by
    rintro rfl
    cases hargs
  exact ⟨ht, herased, e, he, hne, htaking, hfits m rows, by cbv, hfits m cells, by cbv⟩

end Machine

end EntityForge
