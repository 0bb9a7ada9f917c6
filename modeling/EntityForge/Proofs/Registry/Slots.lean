import EntityForge.Proofs.Class.RoundTrip
import EntityForge.Proofs.Registry.Registration
import EntityForge.Proofs.Value.Conformance

/-!
Stored classes and their slots. A class whose bytes are stored under its name is what that name
defines, if anything; each of its fields that instances have gets a slot of its resolved type, which
starts with a value that fits.
-/

namespace EntityForge

/-! What names find in a class. -/

namespace LoadedClass

private theorem foldl_slot? (name : String) (slots : List FieldSlot) (k : Nat) (found : Option Nat)
    (h : ∀ s ∈ slots, s.name ≠ name) :
    (slots.zipIdx k).foldl (fun found (slot, i) => if slot.name = name then some i else found)
      found = found := by
  induction slots generalizing k with
  | nil => rfl
  | cons s slots ih =>
    rw [List.zipIdx_cons, List.foldl_cons]
    simp only [if_neg (h s (by simp))]
    exact ih (k + 1) fun t ht => h t (by simp [ht])

/-- Slots of other names, put behind those of a class, change nothing about where a name finds its
slot. -/
theorem slot?_append {c d : LoadedClass} {more : List FieldSlot} (hslots : d.slots = c.slots ++ more)
    {name : String} (hother : ∀ s ∈ more, s.name ≠ name) : d.slot? name = c.slot? name := by
  unfold slot?
  rw [hslots, List.zipIdx_append, List.foldl_append, foldl_slot? name more _ _ hother]

/-- The slot behind which no slot has the same name is the one that the name finds. -/
theorem slot?_last {c : LoadedClass} {before after : List FieldSlot} {slot : FieldSlot}
    (hslots : c.slots = before ++ slot :: after) (hlast : ∀ s ∈ after, s.name ≠ slot.name) :
    c.slot? slot.name = some before.length := by
  unfold slot?
  rw [hslots, List.zipIdx_append, List.foldl_append, List.zipIdx_cons, List.foldl_cons]
  simp only [if_true]
  rw [foldl_slot? slot.name after _ _ hlast, Nat.zero_add]

/-- The fields that a class itself declares are found where they stand, if their names differ. -/
theorem slot?_own {c : LoadedClass} {inherited own : List FieldSlot}
    (hslots : c.slots = inherited ++ own) (hnames : (own.map (·.name)).Nodup) {i : Nat}
    {slot : FieldSlot} (h : own[i]? = some slot) :
    c.slot? slot.name = some (inherited.length + i) := by
  obtain ⟨hbound, rfl⟩ := List.getElem?_eq_some_iff.mp h
  have hsplit : own = own.take i ++ own[i] :: own.drop (i + 1) := by
    rw [← List.drop_eq_getElem_cons hbound, List.take_append_drop]
  have hlast : ∀ s ∈ own.drop (i + 1), s.name ≠ own[i].name := by
    rw [hsplit, List.map_append, List.map_cons] at hnames
    have htail := (List.nodup_cons.mp (List.nodup_append.mp hnames).2.1).1
    rintro s hs heq
    exact htail (List.mem_map.mpr ⟨s, hs, heq⟩)
  have hcount : (inherited ++ own.take i).length = inherited.length + i := by
    rw [List.length_append, List.length_take, Nat.min_eq_left (Nat.le_of_lt hbound)]
  rw [← hcount]
  refine slot?_last ?_ hlast
  rw [hslots, List.append_assoc, ← hsplit]

/-- A slot that a name finds has that name. -/
theorem slot?_some {c : LoadedClass} {name : String} {i : Nat} (h : c.slot? name = some i) :
    ∃ slot, c.slots[i]? = some slot ∧ slot.name = name := by
  have hfound : ∀ (entries : List (FieldSlot × Nat)) (found : Option Nat),
      entries.foldl (fun found (slot, i) => if slot.name = name then some i else found) found =
        some i → found = some i ∨ ∃ slot, (slot, i) ∈ entries ∧ slot.name = name := by
    intro entries
    induction entries with
    | nil => exact fun _ h => .inl h
    | cons entry entries ih =>
      intro found h
      rcases ih _ h with hhead | ⟨slot, hslot, hname⟩
      · obtain ⟨slot, j⟩ := entry
        dsimp only at hhead
        by_cases hname : slot.name = name
        · rw [if_pos hname] at hhead
          obtain rfl := Option.some.inj hhead
          exact .inr ⟨slot, by simp, hname⟩
        · rw [if_neg hname] at hhead
          exact .inl hhead
      · exact .inr ⟨slot, by simp [hslot], hname⟩
  rcases hfound _ _ h with hnone | ⟨slot, hslot, hname⟩
  · cases hnone
  · exact ⟨slot, List.mem_zipIdx_iff_getElem?.mp hslot, hname⟩

/-- The name of a field finds a slot of a type. -/
def HasField (c : LoadedClass) (name : String) (type : TypeTree) : Prop :=
  ∃ i field, c.slot? name = some i ∧ c.slots[i]? = some field ∧ field.type = type

/-- A name that some slot has finds a slot. -/
theorem slot?_isSome {c : LoadedClass} {slot : FieldSlot} (h : slot ∈ c.slots) :
    ∃ i, c.slot? slot.name = some i := by
  have hkept : ∀ (entries : List (FieldSlot × Nat)) (found : Option Nat),
      found.isSome = true ∨ (∃ entry ∈ entries, entry.1.name = slot.name) →
        (entries.foldl (fun found (s, i) => if s.name = slot.name then some i else found)
          found).isSome = true := by
    intro entries
    induction entries with
    | nil => exact fun _ h => h.elim id fun ⟨_, hmem, _⟩ => nomatch hmem
    | cons entry entries ih =>
      intro found h
      refine ih _ ?_
      obtain ⟨s, i⟩ := entry
      dsimp only
      split
      · exact .inl rfl
      · next hne =>
        rcases h with hfound | ⟨entry, hmem, hname⟩
        · exact .inl hfound
        · rcases List.mem_cons.mp hmem with rfl | hmem
          · exact absurd hname hne
          · exact .inr ⟨entry, hmem, hname⟩
  obtain ⟨i, hi⟩ := List.mem_iff_getElem?.mp h
  exact Option.isSome_iff_exists.mp
    (hkept _ none (.inr ⟨(slot, i), List.mem_zipIdx_iff_getElem?.mpr hi, rfl⟩))

theorem isSubclassOf_self (c : LoadedClass) : c.isSubclassOf c.body.name = true := by
  unfold isSubclassOf
  split <;> simp

theorem isSubclassOf_interface {c : LoadedClass} {target : String}
    (h : target ∈ c.body.interfaces) : c.isSubclassOf target = true := by
  unfold isSubclassOf
  split <;> simp [h]

theorem findMethod?_own {c : LoadedClass} {name descriptor : String} {m : MethodDef}
    (h : c.body.method? name descriptor = some m) : c.findMethod? name descriptor = some m := by
  unfold findMethod?
  split
  · exact h
  · rw [h, Option.some_or]

end LoadedClass

/-! Stored classes. -/

/-- The value that a field of a type starts with: its initializer narrowed to the type, or the value
of a field without initializer. -/
def StartsWith (initial : Option Constant) (type : TypeTree) (v : Value) : Prop :=
  match initial with
  | some c => Value.ofInitializer c type = .ok v
  | none => v = Value.zero type

theorem StartsWith.fits {initial : Option Constant} {type : TypeTree} {v : Value}
    (h : StartsWith initial type v) (ht : type.Denotable) (isInstance : Nat → String → Bool) :
    Value.fits isInstance v type = true := by
  cases initial with
  | none =>
    rw [show v = Value.zero type from h]
    exact Value.fits_zero isInstance ht
  | some c => exact Value.fits_ofInitializer isInstance ht h

theorem StartsWith.unique {initial : Option Constant} {type : TypeTree} {v v' : Value}
    (h : StartsWith initial type v) (h' : StartsWith initial type v') : v = v' := by
  cases initial with
  | none => exact Eq.trans h (Eq.symm h')
  | some c => cases Eq.trans (Eq.symm h) h'; rfl

namespace ClassRegistry

/-- The bytes of a class are stored under its name. -/
def Stores (records : Keyed ClassRecord) (b : ClassBody) : Prop :=
  ∃ record, records.get? b.name = some record ∧ b.encode = .ok record.bytes

variable {records : Keyed ClassRecord} {b : ClassBody} {own : List FieldSlot}

/-- A stored class defines nothing but itself. -/
theorem Stores.definition_eq (h : Stores records b) {b' : ClassBody}
    (hdefined : definition records b.name = .ok b') : b' = b := by
  obtain ⟨record, hrecord, hencode⟩ := h
  obtain ⟨hok, herror⟩ := ClassBody.decode_of_encode hencode
  obtain ⟨decoded, hbody, hname⟩ := Checked.bind_eq_ok.mp hdefined
  rw [body, hrecord] at hbody
  by_cases hwell : b.WellFormed
  · simp only [hok hwell] at hbody
    cases hbody
    simp only [if_true] at hname
    cases hname
    rfl
  · obtain ⟨e, he⟩ := herror hwell
    simp only [he] at hbody
    cases hbody

/-- A stored class that is well-formed is defined. -/
theorem Stores.definition (h : Stores records b) (hwell : b.WellFormed) :
    definition records b.name = .ok b := by
  obtain ⟨record, hrecord, hencode⟩ := h
  have hbody : body records b.name = .ok b := by
    rw [body, hrecord]
    simp only [(ClassBody.decode_of_encode hencode).1 hwell]
    rfl
  rw [ClassRegistry.definition, hbody]
  exact if_pos rfl

/-- A class that is defined is well-formed. -/
theorem Stores.wellFormed (h : Stores records b) {b' : ClassBody}
    (hdefined : ClassRegistry.definition records b.name = .ok b') : b.WellFormed := by
  obtain ⟨record, hrecord, hencode⟩ := h
  by_contra hbad
  obtain ⟨e, he⟩ := (ClassBody.decode_of_encode hencode).2 hbad
  obtain ⟨decoded, hbody, _⟩ := Checked.bind_eq_ok.mp hdefined
  rw [body, hrecord] at hbody
  simp only [he] at hbody
  cases hbody

/-! Slots. -/

/-- A slot is laid out for a field of a class: under the name of both, with the flags and the type
that the field declares, and with the value that it starts with. -/
structure Lays (className : String) (f : FieldDef) (slot : FieldSlot) : Prop where
  owner : slot.owner = className
  name : slot.name = f.name
  flags : slot.flags = f.flags
  type : Signature.parseType f.descriptor = .ok slot.type
  initial : StartsWith f.initial slot.type slot.initial

theorem Lays.fits {className : String} {f : FieldDef} {slot : FieldSlot} (h : Lays className f slot)
    (isInstance : Nat → String → Bool) : Value.fits isInstance slot.initial slot.type = true :=
  h.initial.fits (Signature.parseType_denotable h.type) isInstance

theorem slotOf_lays {className : String} {f : FieldDef} {slot : FieldSlot}
    (h : LoadedClass.slotOf className f = .ok slot) : Lays className f slot := by
  obtain ⟨type, htype, h⟩ := Checked.bind_eq_ok.mp h
  have hparse := Checked.mapError_eq_ok.mp htype
  dsimp only at h
  cases hinitial : f.initial with
  | none =>
    rw [hinitial] at h
    obtain ⟨v, hv, h⟩ := Checked.bind_eq_ok.mp h
    cases hv
    cases h
    exact ⟨rfl, rfl, rfl, hparse, by rw [hinitial]; exact rfl⟩
  | some c =>
    rw [hinitial] at h
    obtain ⟨v, hv, h⟩ := Checked.bind_eq_ok.mp h
    cases h
    exact ⟨rfl, rfl, rfl, hparse, by rw [hinitial]; exact hv⟩

/-- A field gets the slot that is laid out for it. -/
theorem Lays.slotOf {className : String} {f : FieldDef} {slot : FieldSlot}
    (h : Lays className f slot) : LoadedClass.slotOf className f = .ok slot := by
  obtain ⟨owner, name, type, flags, initial⟩ := slot
  obtain ⟨rfl, rfl, rfl, htype, hinitial⟩ := h
  unfold LoadedClass.slotOf
  rw [htype]
  unfold StartsWith at hinitial
  cases hgiven : f.initial with
  | none =>
    rw [hgiven] at hinitial
    obtain rfl : initial = Value.zero type := hinitial
    rfl
  | some c =>
    rw [hgiven] at hinitial
    simp only [bind, Except.bind, Except.mapError, hinitial]
    rfl

theorem ownSlots_lays (h : ownSlots b = .ok own) :
    List.Forall₂ (Lays b.name) (LoadedClass.instanceFields b) own :=
  (Checked.mapM_eq_ok.mp h).imp fun _ _ hslot => slotOf_lays hslot

theorem ownSlots_names (h : ownSlots b = .ok own) :
    own.map (·.name) = (LoadedClass.instanceFields b).map (·.name) := by
  have hlays := ownSlots_lays h
  clear h
  generalize LoadedClass.instanceFields b = fields at hlays ⊢
  induction hlays with
  | nil => rfl
  | cons hhead _ ih => rw [List.map_cons, List.map_cons, ih, hhead.name]

/-- A class that is linked from a stored class is that class behind the slots that it inherits. -/
theorem Stores.links {r : ClassRegistry} (hsound : r.Sound) (hstored : Stores r.records b)
    {c : LoadedClass} (h : r.Links b.name c) :
    c.body = b ∧ ∃ inherited own, ownSlots b = .ok own ∧ c.slots = inherited ++ own := by
  obtain ⟨hdefined, inherited, own, hown, hslots⟩ := Links.defines hsound h
  have hbody := hstored.definition_eq hdefined
  exact ⟨hbody, inherited, own, hbody ▸ hown, hslots⟩

/-- A field that a linked class declares for its instances is found by its name, if no two of them
share a name. -/
theorem field_found {c : LoadedClass} {inherited : List FieldSlot}
    (hown : ownSlots c.body = .ok own) (hslots : c.slots = inherited ++ own)
    (hnames : ((LoadedClass.instanceFields c.body).map (·.name)).Nodup) {f : FieldDef}
    (hf : f ∈ LoadedClass.instanceFields c.body) :
    ∃ i field, c.slot? f.name = some i ∧ c.slots[i]? = some field ∧
      Lays c.body.name f field := by
  obtain ⟨field, hmem, hlays⟩ := Checked.forall₂_mem_left (ownSlots_lays hown) hf
  obtain ⟨i, hi⟩ := List.mem_iff_getElem?.mp hmem
  have hfound := LoadedClass.slot?_own hslots (ownSlots_names hown ▸ hnames) hi
  refine ⟨inherited.length + i, field, hlays.name ▸ hfound, ?_, hlays⟩
  rw [hslots, List.getElem?_append_right (Nat.le_add_right _ _), Nat.add_sub_cancel_left, hi]

end ClassRegistry

namespace LoadedClass

variable {c : LoadedClass} {b : ClassBody}

/-- A loaded class is a body in front of whatever slots its superclass adds. -/
structure Fronts (c : LoadedClass) (b : ClassBody) : Prop where
  body : c.body = b
  slots : ∃ inherited own, ClassRegistry.ownSlots b = .ok own ∧ c.slots = inherited ++ own

theorem Fronts.name (h : c.Fronts b) : c.name = b.name := by rw [LoadedClass.name, h.body]

/-- The fields of the body are found, if no two of them share a name. -/
theorem Fronts.hasField (h : c.Fronts b) (hnames : ((instanceFields b).map (·.name)).Nodup)
    {f : FieldDef} (hf : f ∈ instanceFields b) {type : TypeTree}
    (hparse : Signature.parseType f.descriptor = .ok type) : c.HasField f.name type := by
  obtain ⟨rfl, inherited, own, hown, hslots⟩ := h
  obtain ⟨i, field, hfound, hfield, hlays⟩ := ClassRegistry.field_found hown hslots hnames hf
  exact ⟨i, field, hfound, hfield, Except.ok.inj (hlays.type.symm.trans hparse)⟩

/-- The methods of the body are found. -/
theorem Fronts.findMethod? (h : c.Fronts b) {name descriptor : String} {m : MethodDef}
    (hmethod : b.method? name descriptor = some m) : c.findMethod? name descriptor = some m :=
  findMethod?_own (h.body ▸ hmethod)

end LoadedClass

/-- A class that is linked from a stored class has it in front. -/
theorem ClassRegistry.Stores.fronts {r : ClassRegistry} {b : ClassBody} {c : LoadedClass}
    (hsound : r.Sound) (hstored : Stores r.records b) (h : r.Links b.name c) : c.Fronts b :=
  ⟨(hstored.links hsound h).1, (hstored.links hsound h).2⟩

end EntityForge
