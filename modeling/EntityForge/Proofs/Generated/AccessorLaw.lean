import EntityForge.Proofs.Generated.AccessorSession

/-!
The law of accessors. Whatever was called before, a read answers the last value that a write was
answered for, and the initial value of the field if there was none.
-/

namespace EntityForge

open Run

namespace AccessorCall

/-- The calls that were made and what they answered. -/
def history : List AccessorCall → Machine → List (AccessorCall × Except Failure Value)
  | [], _ => []
  | call :: calls, m => (call, (call.run.on m).1) :: history calls (call.run.on m).2

/-- The value that an answered call wrote to a property of an object; else the one written before. -/
def laterWrite (object : Nat) (property : String) (earlier : Option Value) :
    AccessorCall × Except Failure Value → Option Value
  | (call, outcome) =>
    if call.object = object ∧ call.property.name = property ∧ outcome.isOk = true then
      call.written.or earlier
    else earlier

/-- The last value that was written to a property of an object by a call that was answered. -/
def lastWrite (history : List (AccessorCall × Except Failure Value)) (object : Nat)
    (property : String) : Option Value :=
  history.foldl (laterWrite object property) none

private theorem writing_isOk (s : AccessorShape) (admitted fits : Bool) (v : Value) :
    ((s.writing admitted fits v).map fun _ => Value.null).isOk = (admitted && fits) := by
  unfold AccessorShape.writing
  cases admitted <;> cases fits <;> rfl

/-- What calls answer from a store, one after the other. -/
def answers (entity : String) (admitted : Nat → Bool) (fits : Value → TypeTree → Bool) :
    List AccessorCall → FieldStore → List (AccessorCall × Except Failure Value)
  | [], _ => []
  | call :: calls, σ =>
    (call, call.answer entity admitted fits σ) ::
      answers entity admitted fits calls (call.store admitted fits σ)

variable {entity : String} {admitted : Nat → Bool} {fits : Value → TypeTree → Bool} {object : Nat}
  {property : String} {σ : FieldStore} {earlier : Option Value} {initial : Value}

/-- After a call the store holds the value that was written last, if it did so before. -/
private theorem store_laterWrite (call : AccessorCall)
    (h : σ object property = earlier.getD initial) :
    call.store admitted fits σ object property =
      (laterWrite object property earlier (call, call.answer entity admitted fits σ)).getD
        initial := by
  obtain ⟨p, accessor, target, written⟩ := call
  unfold laterWrite store answer
  cases written with
  | none =>
    dsimp only
    rw [Option.none_or, ite_self, h]
  | some v =>
    dsimp only
    rw [writing_isOk]
    cases hdone : admitted target && fits v p.type with
    | false =>
      rw [if_neg Bool.false_ne_true, if_neg (by simp), h]
    | true =>
      rw [if_pos rfl]
      unfold FieldStore.set
      by_cases hplace : object = target ∧ property = p.name
      · rw [if_pos hplace, if_pos ⟨hplace.1.symm, hplace.2.symm, rfl⟩]
        rfl
      · rw [if_neg hplace, if_neg fun hother => hplace ⟨hother.1.symm, hother.2.1.symm⟩, h]

/-- After calls the store holds what was written last by those that it answers. -/
private theorem stored_lastWrite (calls : List AccessorCall)
    (h : σ object property = earlier.getD initial) :
    calls.foldl (fun σ call => call.store admitted fits σ) σ object property =
      ((answers entity admitted fits calls σ).foldl (laterWrite object property) earlier).getD
        initial := by
  induction calls generalizing σ earlier with
  | nil => exact h
  | cons call calls ih =>
    rw [answers, List.foldl_cons, List.foldl_cons]
    exact ih (store_laterWrite call h)

end AccessorCall

namespace AccessorSession

variable {session : AccessorSession} {entity : LoadedClass} {inherited own : List FieldSlot}
  {σ : FieldStore} {m : Machine}

/-- Calls answer what the store answers. -/
private theorem Holds.history (h : session.Holds entity inherited own σ m)
    (calls : List AccessorCall) (hcalls : ∀ call ∈ calls, session.Admits call) :
    AccessorCall.history calls m =
      AccessorCall.answers entity.name (fun id => m.conforms (.object id) entity.name) m.fits
        calls σ := by
  induction calls generalizing σ m with
  | nil => rfl
  | cons call calls ih =>
    obtain ⟨m', hrun, hsame, _, hnext⟩ := h.step call (hcalls call (by simp))
    have hrest := ih hnext fun other hother => hcalls other (by simp [hother])
    unfold Machine.conforms Machine.fits at hrest hrun ⊢
    rw [AccessorCall.history, AccessorCall.answers, hrun, hrest, hsame]

/-- After any calls the machine is in the state of a store that holds what was written last. -/
private theorem Holds.lastWrite (h : session.Holds entity inherited own σ m)
    (calls : List AccessorCall) (hcalls : ∀ call ∈ calls, session.Admits call) (object : Nat)
    (property : String) {initial : Value} (hinitial : σ object property = initial) :
    ∃ σ', session.Holds entity inherited own σ' (AccessorCall.after calls m) ∧
      σ' object property =
        (AccessorCall.lastWrite (AccessorCall.history calls m) object property).getD initial := by
  rw [h.history calls hcalls]
  exact ⟨_, (h.run calls hcalls).2, AccessorCall.stored_lastWrite calls hinitial⟩

/-- The objects of a session pass the check of their class, unless it is named like an array. -/
private theorem Holds.admits (h : session.Holds entity inherited own σ m)
    (hname : entity.name.toList.head? ≠ some '[') {object : Nat} (hobject : object ∈ session.objects) :
    m.conforms (.object object) entity.name = true := by
  have hinstance : m.isInstance object entity.name = true := by
    rw [Machine.isInstance, Machine.classOf_object, (h.objects object hobject).2]
    exact entity.isSubclassOf_self
  refine (Value.conformsTo_class _ hname _).trans ?_
  rw [Value.conformsToClass, hinstance, Bool.or_true]

/-- A write of a value that fits is answered, one of a value that does not is refused, and a read
behind both answers the former. -/
private theorem Holds.history_written (h : session.Holds entity inherited own σ m)
    (hname : entity.name.toList.head? ≠ some '[') {p : Property} {accessor : Accessor}
    {object : Nat} (haccessor : (p, accessor) ∈ session.accessors)
    (hobject : object ∈ session.objects) {v w : Value} (hfits : m.fits v p.type = true)
    (hrefuses : m.fits w p.type = false) :
    AccessorCall.history [⟨p, accessor, object, some v⟩, ⟨p, accessor, object, some w⟩,
        ⟨p, accessor, object, none⟩] m =
      [(⟨p, accessor, object, some v⟩, .ok .null),
        (⟨p, accessor, object, some w⟩, .error ((⟨entity.name, p⟩ : AccessorShape).refusal w)),
        (⟨p, accessor, object, none⟩, .ok v)] := by
  have hadmitted := h.admits hname hobject
  rw [h.history _ (by simp [AccessorSession.Admits, haccessor, hobject])]
  simp [AccessorCall.answers, AccessorCall.answer, AccessorCall.store, AccessorShape.reading,
    AccessorShape.writing, FieldStore.set, Except.map, hadmitted, hfits, hrefuses]

end AccessorSession

namespace Generator

/-- Accessors obey the law of a store, in every mode and over any calls. Once a pass has succeeded
and all its classes load, objects of the entity and accessors of its field properties can be made on
any machine; from then on a read answers the last value that a write was answered for, or the
initial value of the field, and a write that fails changes nothing at all. Objects of an entity whose
name is an array descriptor pass no check of their class, so such names are left out. -/
theorem accessor_law {g : Generator} {r r' : ClassRegistry} {c : ClassMeta}
    {generated : GeneratedEntity} (hreachable : r.Reachable)
    (hdigests : ClassRegistry.DigestsSeparate r.records generated.records)
    (hgenerate : g.generate r c = .ok (generated, r'))
    (hall : r'.AllLoad generated.classNames) (hfields : (c.fields.map (·.name)).Nodup)
    (htypes : KeepsTypes c generated.entity)
    (hspares : c.SparesInjected generated.entity.properties)
    (hclassName : generated.name.toList.head? ≠ some '[')
    {m : Machine} (hm : r'.Later m.registry) (count : Nat) {properties : List Property}
    (hproperties : ∀ p ∈ properties, p ∈ generated.entity.properties ∧ p.access = .field) :
    ∃ session m₁,
      (AccessorSession.start generated.entity count properties).on m = (.ok session, m₁) ∧
      session.objects.length = count ∧ session.accessors.map (·.1) = properties ∧
      (∀ object ∈ session.objects, (m₁.classOf object).name = generated.name) ∧
      ∀ calls, (∀ call ∈ calls, session.Admits call) →
      ∀ p accessor object, (p, accessor) ∈ session.accessors → object ∈ session.objects →
        (∃ initial, Initially c p initial ∧
          (accessor.get object).on (AccessorCall.after calls m₁) =
            (.ok ((AccessorCall.lastWrite (AccessorCall.history calls m₁) object p.name).getD
              initial), AccessorCall.after calls m₁)) ∧
        ∀ v failure m₂,
          (accessor.set object v).on (AccessorCall.after calls m₁) = (.error failure, m₂) →
            m₂ = AccessorCall.after calls m₁ := by
  obtain ⟨bodies, body, hinstalls⟩ := generate_installs hreachable hdigests hgenerate
  have hdescribes := hinstalls.describes
  obtain ⟨entity, accessorClass, inherited, own, hloads⟩ := hinstalls.loads hall hfields
  obtain ⟨m₁, hstart, _, _, _, hholds⟩ :=
    hloads.start_on hdescribes htypes hspares hm count hproperties
  have hname := hloads.name hdescribes.name
  have hmember {p : Property} {accessor : Accessor}
      (hp : (p, accessor) ∈
        (AccessorSession.behind m.heap.size generated.entity count properties).accessors) :
      p ∈ properties := by
    obtain ⟨⟨q, id⟩, hmem, heq⟩ := List.mem_map.mp hp
    cases heq
    exact (List.mem_zipIdx_iff_le_and_getElem?_sub.mp hmem).2 |> List.mem_of_getElem?
  refine ⟨_, m₁, hstart, by simp [AccessorSession.behind],
    by simp [AccessorSession.behind, Function.comp_def], ?_, ?_⟩
  · intro object hobject
    rw [Machine.classOf_object, (hholds.objects object hobject).2]
    exact hname
  · intro calls hcalls p accessor object haccessor hobject
    obtain ⟨hp, haccess⟩ := hproperties p (hmember haccessor)
    obtain ⟨i, field, hbacked, hinitially⟩ := hloads.backed hdescribes htypes hp haccess
    have hinitial : AccessorSession.initialStore own object p.name = field.initial := by
      rw [← hbacked.name]
      exact AccessorSession.initialStore_slot hloads.layout (List.mem_of_getElem? hbacked.place) _
    obtain ⟨σ, hafter, hlast⟩ := hholds.lastWrite calls hcalls object p.name hinitial
    have hadmitted := hafter.admits (hname ▸ hclassName) hobject
    refine ⟨⟨field.initial, hinitially, ?_⟩, ?_⟩
    · obtain ⟨m₂, hrun, _, hsame, _⟩ :=
        hafter.step ⟨p, accessor, object, none⟩ ⟨haccessor, hobject⟩
      rw [hsame (.inl rfl)] at hrun
      refine hrun.trans ?_
      simp only [AccessorCall.answer, AccessorShape.reading, hadmitted, if_true, hlast]
    · intro v failure m₂ hset
      obtain ⟨m₃, hrun, _, hsame, _⟩ :=
        hafter.step ⟨p, accessor, object, some v⟩ ⟨haccessor, hobject⟩
      have hfails : (AccessorCall.run ⟨p, accessor, object, some v⟩).on
          (AccessorCall.after calls m₁) = (.error failure, m₂) := on_bind_error hset
      rw [hfails] at hsame hrun
      rw [(Prod.mk.inj hrun).2]
      exact hsame (.inr rfl)

private theorem initially_account {p : Property} {v : Value} (h : Initially Entity.account p v) :
    (p.name = "key" → v = .long 0) ∧ (p.name = "mail" → v = .null) := by
  obtain ⟨f, hf, hname, type, hparse, hstarts⟩ := h
  have hlong : Signature.parseType "J" = .ok (.ofPrimitive .long) :=
    Signature.parseType_erased (t := .ofPrimitive .long) (by decide)
  rw [← hname]
  obtain rfl | rfl := List.mem_pair.mp hf
  · obtain rfl := Except.ok.inj (hparse.symm.trans hlong)
    exact ⟨fun _ => hstarts, fun hmail => absurd hmail (by decide)⟩
  · obtain rfl := Except.ok.inj (hparse.symm.trans Signature.parseType_string)
    exact ⟨fun hkey => absurd hkey (by decide), fun _ => hstarts⟩

private theorem account_fields {e : Entity} (h : Entity.ofClass .annotated Entity.account = .ok e) :
    ∃ key mail, (∀ p ∈ [key, mail], p ∈ e.properties ∧ p.access = .field) ∧
      (key.name = "key" ∧ key.type = .ofPrimitive .long) ∧ mail.name = "mail" := by
  have hmembers := Checked.decided (P := fun e : Entity =>
    e.properties.map (fun p => (p.name, p.type, p.access)) =
      [("key", .ofPrimitive .long, .field), ("mail", .ofClass "java.lang.String", .field),
        ("owner", .ofClass "java.lang.String",
          .method ⟨"getOwner", "()Ljava/lang/String;"⟩ none)]) h (by decide +kernel)
  simp only [List.map_eq_cons_iff, Prod.mk.injEq] at hmembers
  obtain ⟨key, _, hcons, ⟨hkey, hkeyType, hkeyAccess⟩, mail, _, rfl, ⟨hmail, _, hmailAccess⟩, _⟩ :=
    hmembers
  exact ⟨key, mail, by simp [hcons, hkeyAccess, hmailAccess], ⟨hkey, hkeyType⟩, hmail⟩

/-- On two objects of a class, a write of one of its fields, a write that is refused, and a read: the
field holds what was written, and the same field of the other object and the other field of the
object hold what they started with. -/
theorem accessor_law_account :
    ∃ generated r' key mail keyAccessor mailAccessor session m₁,
      (Generator.mk .annotated .runtime).generate {} Entity.account = .ok (generated, r') ∧
      (AccessorSession.start generated.entity 2 [key, mail]).on { registry := r' } =
        (.ok session, m₁) ∧
      session.objects = [0, 1] ∧
      session.accessors = [(key, keyAccessor), (mail, mailAccessor)] ∧
      ∃ calls refusal,
        calls = [⟨key, keyAccessor, 0, some (.long 7)⟩, ⟨key, keyAccessor, 0, some (.text "x")⟩,
          ⟨key, keyAccessor, 0, none⟩] ∧
        (AccessorCall.history calls m₁).map (·.2) =
          [.ok .null, .error refusal, .ok (.long 7)] ∧
        (keyAccessor.get 0).on (AccessorCall.after calls m₁) =
          (.ok (.long 7), AccessorCall.after calls m₁) ∧
        (keyAccessor.get 1).on (AccessorCall.after calls m₁) =
          (.ok (.long 0), AccessorCall.after calls m₁) ∧
        (mailAccessor.get 0).on (AccessorCall.after calls m₁) =
          (.ok .null, AccessorCall.after calls m₁) := by
  obtain ⟨generated, r', hgenerate, hentity, hdigests, _, _, hall, _⟩ := account_loads
  obtain ⟨key, mail, hproperties, ⟨hkey, hkeyType⟩, hmail⟩ := account_fields hentity
  obtain ⟨htypes, hspares⟩ := Checked.decided (P := fun e : Entity =>
    KeepsTypes Entity.account e ∧ Entity.account.SparesInjected e.properties) hentity
      (by decide +kernel)
  obtain ⟨bodies, body, hinstalls⟩ := generate_installs (.new .builtin) hdigests hgenerate
  have hname : generated.entity.name = "app.Account" := hinstalls.describes.name
  have hall := hall.mono (generate_names hgenerate)
  have hfields : (Entity.account.fields.map (·.name)).Nodup := by decide
  obtain ⟨session, m₁, hstart, _, _, _, hlaw⟩ :=
    accessor_law (m := { registry := r' }) (.new .builtin) hdigests hgenerate hall hfields htypes
      hspares (by rw [GeneratedEntity.name, hname]; decide) (.refl r') 2 hproperties
  -- The outcomes of the calls, which the law only speaks of, are those of the store.
  obtain ⟨entity, _, inherited, own, hloads⟩ := hinstalls.loads hall hfields
  obtain ⟨_, hstart', _, _, _, hholds⟩ := hloads.start_on (m := { registry := r' })
    hinstalls.describes htypes hspares (.refl r') 2 hproperties
  cases hstart.symm.trans hstart'
  have hentityName : entity.name = "app.Account" := (hloads.name hinstalls.describes.name).trans hname
  have hobject : 0 ∈ (AccessorSession.behind 0 generated.entity 2 [key, mail]).objects :=
    AccessorSession.mem_objects_behind.mpr ⟨Nat.le_refl 0, Nat.zero_lt_two⟩
  have hkeyed : (key, .generated 2) ∈
      (AccessorSession.behind 0 generated.entity 2 [key, mail]).accessors := List.mem_cons_self
  let calls : List AccessorCall := [⟨key, .generated 2, 0, some (.long 7)⟩,
    ⟨key, .generated 2, 0, some (.text "x")⟩, ⟨key, .generated 2, 0, none⟩]
  have hcalls : ∀ call ∈ calls,
      (AccessorSession.behind 0 generated.entity 2 [key, mail]).Admits call := by
    simp [calls, AccessorSession.Admits, hkeyed, hobject]
  have hhistory : AccessorCall.history calls m₁ = _ :=
    hholds.history_written (by rw [hentityName]; decide) hkeyed hobject (by rw [hkeyType]; rfl)
      (by rw [hkeyType]; rfl)
  have hlast (object : Nat) (p : Property) :
      AccessorCall.lastWrite (AccessorCall.history calls m₁) object p.name =
        if object = 0 ∧ p.name = "key" then some (.long 7) else none := by
    rw [hhistory]
    simp [AccessorCall.lastWrite, AccessorCall.laterWrite, Except.isOk, Except.toBool, hkey, eq_comm]
  refine ⟨generated, r', key, mail, .generated 2, .generated 3, _, m₁, hgenerate, hstart, rfl, rfl,
    calls, (⟨entity.name, key⟩ : AccessorShape).refusal (.text "x"), rfl, ?_, ?_, ?_, ?_⟩
  · rw [hhistory]
    rfl
  · obtain ⟨⟨_, _, hget⟩, _⟩ := hlaw calls hcalls key (.generated 2) 0 List.mem_cons_self hobject
    rwa [hlast, if_pos ⟨rfl, hkey⟩] at hget
  · obtain ⟨⟨initial, hinitially, hget⟩, _⟩ :=
      hlaw calls hcalls key (.generated 2) 1 List.mem_cons_self (by simp [AccessorSession.behind])
    rwa [hlast, if_neg (by simp), Option.getD_none, (initially_account hinitially).1 hkey] at hget
  · obtain ⟨⟨initial, hinitially, hget⟩, _⟩ :=
      hlaw calls hcalls mail (.generated 3) 0 (by simp [AccessorSession.behind]) hobject
    rwa [hlast, if_neg (by simp [hmail]), Option.getD_none,
      (initially_account hinitially).2 hmail] at hget

/-- Objects of an entity that is named like an array do not pass the check of their own class, so its
accessors read nothing. -/
theorem accessor_law_arrayName :
    ∃ generated r' session m₁ accessor object failure,
      (Generator.mk {} (.selfContained .direct)).generate {} (Counter.classMeta "[I" none) =
        .ok (generated, r') ∧
      r'.AllLoad r'.names ∧ ((Counter.classMeta "[I" none).fields.map (·.name)).Nodup ∧
      KeepsTypes (Counter.classMeta "[I" none) generated.entity ∧
      (Counter.classMeta "[I" none).SparesInjected generated.entity.properties ∧
      Counter.property ∈ generated.entity.properties ∧ Counter.property.access = .field ∧
      (AccessorSession.start generated.entity 1 [Counter.property]).on { registry := r' } =
        (.ok session, m₁) ∧
      session.accessors = [(Counter.property, accessor)] ∧ session.objects = [object] ∧
      (m₁.classOf object).name = generated.name ∧
      (accessor.get object).on m₁ = (.error failure, m₁) := by
  have hchecks : Counter.Checks (.selfContained .direct) "[I" none := by decide +kernel
  obtain ⟨generated, r', hgenerate, hentity, hdigests, _, _, hall⟩ := Counter.loads hchecks
  have hfields := Counter.fieldNames "[I" none
  have htypes : KeepsTypes (Counter.classMeta "[I" none) generated.entity :=
    hentity ▸ Counter.keepsTypes _ _
  have hproperties := Counter.properties hentity
  obtain ⟨bodies, body, hinstalls⟩ := generate_installs (.new .builtin) hdigests hgenerate
  obtain ⟨entity, _, _, _, hloads⟩ := hinstalls.loads
    (hall.mono (generate_names hgenerate)) hfields
  obtain ⟨m₁, hstart, _, _, _, hholds⟩ := hloads.start_on (m := { registry := r' })
    hinstalls.describes htypes (Counter.spares _ _ _) (.refl r') 1 hproperties
  have hname : entity.name = generated.entity.name := hloads.name hinstalls.describes.name
  have hrefused : m₁.conforms (.object 0) entity.name = false := by
    rw [hname, hentity, Machine.conforms, Value.conformsTo.eq_def]
    rfl
  have hobject : 0 ∈ (AccessorSession.behind 0 generated.entity 1 [Counter.property]).objects :=
    List.mem_singleton_self _
  obtain ⟨m₂, hrun, _, hsame, _⟩ :=
    hholds.step ⟨Counter.property, .generated 1, 0, none⟩ ⟨List.mem_singleton_self _, hobject⟩
  rw [hsame (.inl rfl)] at hrun
  have hclass : (m₁.classOf 0).name = generated.name := by
    rw [Machine.classOf_object, (hholds.objects 0 hobject).2]
    exact hname
  refine ⟨generated, r', _, m₁, .generated 1, 0, .cannotCast "object" entity.name, hgenerate, hall,
    hfields, htypes, Counter.spares _ _ _, (hproperties _ (List.mem_singleton_self _)).1, rfl,
    hstart, rfl, rfl, hclass, ?_⟩
  refine hrun.trans ?_
  simp only [AccessorCall.answer, AccessorShape.reading, hrefused, Bool.false_eq_true, if_false]

end Generator

end EntityForge
