import EntityForge.Annotation.Registry
import EntityForge.Class.Decode
import EntityForge.Class.Listing
import EntityForge.Registry.LoadedClass
import EntityForge.Registry.Record

/-!
The registry of generated classes. A name keeps the bytes it was first registered with; the same
bytes may be registered again, others conflict. A class is linked when it is first loaded, and every
later load answers the same class.
-/

namespace EntityForge

inductive Registration where
  | inserted | unchanged
  deriving DecidableEq

def Registration.label : Registration → String
  | inserted => "Inserted"
  | unchanged => "Unchanged"

/-- Classes by name, and those of them that are loaded. -/
structure ClassRegistry where
  records : Keyed ClassRecord := []
  loaded : Keyed LoadedClass := []
  annotations : AnnotationRegistry := .builtin

namespace ClassRegistry

def record? (r : ClassRegistry) (name : String) : Option ClassRecord := r.records.get? name

def contains (r : ClassRegistry) (name : String) : Bool := r.records.contains name

def names (r : ClassRegistry) : List String := r.records.keys

/-- What registering a record would do. -/
def check (records : Keyed ClassRecord) (record : ClassRecord) : Except Failure Registration :=
  match records.get? record.name with
  | none => .ok .inserted
  | some known =>
    if known.digest = record.digest then .ok .unchanged else .error (.bodyConflict record.name)

/-- Stores a record that is new. -/
def store (records : Keyed ClassRecord) (record : ClassRecord) : Registration → Keyed ClassRecord
  | .inserted => records.insert record.name record
  | .unchanged => records

/-- Checks records in order; those of one name must agree among each other, too. -/
def checkAll (records : Keyed ClassRecord) (seen : Keyed ClassRecord) :
    List ClassRecord → Except Failure (List Registration)
  | [] => .ok []
  | record :: rest =>
    let agrees := (seen.get? record.name).all fun earlier => earlier.digest = record.digest
    if agrees then do
      let outcome ← check records record
      let outcomes ← checkAll records (seen.insert record.name record) rest
      return outcome :: outcomes
    else .error (.bodyConflict record.name)

end ClassRegistry

/-- Registrations. One that fails answers, as one that succeeds does, the registry that it leaves. -/
abbrev Registering (ε : Type) := ExceptT ε (StateM ClassRegistry)

namespace Registering

variable {ε α : Type}

/-- What a registration answers on a registry, and the registry after it. -/
def on (x : Registering ε α) (r : ClassRegistry) : Except ε α × ClassRegistry :=
  StateT.run (ExceptT.run x) r

/-- The answer of a registration that succeeds with the registry after it, or its error alone. -/
def accepted (x : Registering ε α) (r : ClassRegistry) : Except ε (α × ClassRegistry) :=
  let (result, r') := x.on r
  result.map fun a => (a, r')

/-- Stores a record whose outcome is known. -/
def store (record : ClassRecord) (outcome : Registration) : Registering ε Unit :=
  modify fun r => { r with records := ClassRegistry.store r.records record outcome }

def register (record : ClassRecord) : Registering Failure Registration := do
  let outcome ← ClassRegistry.check (← get).records record
  store record outcome
  return outcome

/-- Registers several records. All of them are checked before the first one is stored. -/
def registerAll (batch : List ClassRecord) : Registering Failure (List Registration) := do
  let outcomes ← ClassRegistry.checkAll (← get).records [] batch
  (batch.zip outcomes).forM fun (record, outcome) => store record outcome
  return outcomes

def registerBody (b : ClassBody) : Registering Failure Registration := do
  let record ← (ClassRecord.ofBody b).mapError Failure.malformedBody
  register record

end Registering

namespace ClassRegistry

def register (r : ClassRegistry) (record : ClassRecord) :
    Except Failure (Registration × ClassRegistry) :=
  (Registering.register record).accepted r

def registerAll (r : ClassRegistry) (batch : List ClassRecord) :
    Except Failure (List Registration × ClassRegistry) :=
  (Registering.registerAll batch).accepted r

def registerBody (r : ClassRegistry) (b : ClassBody) :
    Except Failure (Registration × ClassRegistry) :=
  (Registering.registerBody b).accepted r

/-- Reads the class that is stored under a name, without linking it. -/
def body (records : Keyed ClassRecord) (name : String) : Except Failure ClassBody :=
  match records.get? name with
  | none => .error (.classNotFound name)
  | some record => (ClassBody.decode record.bytes).mapError .malformedBody

def listing (r : ClassRegistry) (name : String) (renames : Renames) : Except Failure String :=
  (body r.records name).map fun b => b.listing renames

/-- The files of all records in order of their names. -/
def files (r : ClassRegistry) : List (String × Bytes) :=
  r.records.map fun (_, record) => (record.relativePath, record.bytes)

/-- Reads the class of a name and checks that it is the one meant. -/
def definition (records : Keyed ClassRecord) (name : String) : Except Failure ClassBody := do
  let b ← body records name
  if b.name = name then return b else throw (.nameMismatch name b.name)

theorem contains_of_definition {records : Keyed ClassRecord} {name : String} {b : ClassBody}
    (h : definition records name = .ok b) : records.contains name := by
  unfold definition body at h
  cases hr : records.get? name with
  | none => simp [hr, bind, Except.bind] at h
  | some record => simp [Keyed.contains, hr]

/-- The number of registered names that a chain of superclasses has not yet met. -/
def unmet (records : Keyed ClassRecord) (visiting : List String) : Nat :=
  records.countP fun entry => !visiting.contains entry.1

theorem exists_of_contains {records : Keyed ClassRecord} {name : String}
    (h : records.contains name) : ∃ entry ∈ records, entry.1 = name := by
  induction records with
  | nil => simp [Keyed.contains] at h
  | cons entry rest ih =>
    obtain ⟨k, v⟩ := entry
    by_cases hk : name = k
    · exact ⟨(k, v), by simp, hk.symm⟩
    · have hk' : (name == k) = false := by simpa using hk
      obtain ⟨e, he, hn⟩ := ih (by simpa [Keyed.contains, Keyed.get?, List.lookup_cons, hk'] using h)
      exact ⟨e, by simp [he], hn⟩

/-- Meeting one more name leaves no more to meet. -/
theorem unmet_le (records : Keyed ClassRecord) (visiting : List String) (name : String) :
    unmet records (name :: visiting) ≤ unmet records visiting :=
  List.countP_mono_left fun entry _ h => by simp_all

/-- Meeting a registered name leaves fewer to meet. -/
theorem unmet_lt {records : Keyed ClassRecord} {visiting : List String} {name : String}
    (h : records.contains name) (hnew : visiting.contains name = false) :
    unmet records (name :: visiting) < unmet records visiting := by
  obtain ⟨entry, hmem, hname⟩ := exists_of_contains h
  clear h
  induction records with
  | nil => simp at hmem
  | cons first rest ih =>
    have hrest := unmet_le rest visiting name
    rcases List.mem_cons.1 hmem with rfl | hin
    · subst hname
      unfold unmet at *
      rw [List.countP_cons_of_neg (by simp), List.countP_cons_of_pos (by simpa using hnew)]
      omega
    · have hfirst := unmet_le [first] visiting name
      have hrest := ih hin
      unfold unmet at *
      rw [show first :: rest = [first] ++ rest from rfl, List.countP_append, List.countP_append]
      exact Nat.add_lt_add_of_le_of_lt hfirst hrest

/-- Loads a class behind its superclass. A superclass that is not registered counts as given from
outside. `visiting` are the names that wait for this one; `cache` are the classes loaded so far, of
which some may be new even when the load fails. -/
def loadChain (records : Keyed ClassRecord) (visiting : List String) (name : String)
    (cache : Keyed LoadedClass) : Except Failure LoadedClass × Keyed LoadedClass :=
  match cache.get? name with
  | some c => (.ok c, cache)
  | none =>
    if _hv : visiting.contains name then (.error (.superclassCycle name), cache)
    else
      match _hd : definition records name with
      | .error e => (.error e, cache)
      | .ok b =>
        let finish (parent : Option LoadedClass) (cache : Keyed LoadedClass) :=
          match LoadedClass.link b parent with
          | .error e => (.error e, cache)
          | .ok c => (.ok c, cache.insert name c)
        match b.superName.filter records.contains with
        | none => finish none cache
        | some superName =>
          match loadChain records (name :: visiting) superName cache with
          | (.error e, cache) => (.error e, cache)
          | (.ok parent, cache) => finish (some parent) cache
termination_by unmet records visiting
decreasing_by
  exact unmet_lt (contains_of_definition _hd) (by simpa using _hv)

/-- Loads a class, once. -/
def load (r : ClassRegistry) (name : String) : Except Failure LoadedClass × ClassRegistry :=
  let (result, loaded) := loadChain r.records [] name r.loaded
  (result, { r with loaded })

end ClassRegistry

end EntityForge
