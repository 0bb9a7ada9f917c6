import EntityForge.Toml.Statement
import EntityForge.Text.Keyed

/-!
The tables of a TOML document. Statements are applied in order; no key is bound twice, and a table
is defined by one header at most.
-/

namespace EntityForge.Toml

inductive Origin where
  /-- On the way to the path of a header. -/
  | implicit
  /-- By its own header. -/
  | header
  /-- On the way to a dotted key. -/
  | dotted
  deriving DecidableEq

inductive Node where
  | value (value : Value)
  | table (origin : Origin) (entries : List (String × Node))
  | tables (done : List (List (String × Node))) (last : List (String × Node))

abbrev Entries := Keyed Node

/-- Binds a dotted key. Tables on the way are made, or extended unless a header defined them; from
then on none of them can be defined by a header. -/
def assign? (value : Node) : List String → Entries → Option Entries
  | [], _ => none
  | [key], entries => if entries.contains key then none else some (entries.insert key value)
  | key :: path, entries =>
    match entries.get? key with
    | none => (assign? value path []).map fun sub => entries.insert key (.table .dotted sub)
    | some (.table .header _) => none
    | some (.table _ sub) =>
      (assign? value path sub).map fun sub => entries.insert key (.table .dotted sub)
    | some _ => none

/-- Applies `f` to the table at a header's path; tables on the way are made. -/
def descend? (f : Entries → Option Entries) : List String → Entries → Option Entries
  | [], entries => f entries
  | key :: path, entries =>
    match entries.get? key with
    | none => (descend? f path []).map fun sub => entries.insert key (.table .implicit sub)
    | some (.table origin sub) =>
      (descend? f path sub).map fun sub => entries.insert key (.table origin sub)
    | some (.tables done last) =>
      (descend? f path last).map fun last => entries.insert key (.tables done last)
    | some (.value _) => none

def openTable? (key : String) (entries : Entries) : Option Entries :=
  match entries.get? key with
  | none => some (entries.insert key (.table .header []))
  | some (.table .implicit sub) => some (entries.insert key (.table .header sub))
  | some _ => none

/-- Adds a table to an array of tables. -/
def openItem? (key : String) (entries : Entries) : Option Entries :=
  match entries.get? key with
  | none => some (entries.insert key (.tables [] []))
  | some (.tables done last) => some (entries.insert key (.tables (last :: done) []))
  | some _ => none

mutual

/-- Whether no table in braces inside a value binds a key twice. -/
def isConsistent : Value → Bool
  | .array items => areConsistent items
  | .inlineTable entries => (entries?From entries []).isSome
  | _ => true

def areConsistent : List Value → Bool
  | [] => true
  | item :: rest => isConsistent item && areConsistent rest

/-- Binds the entries of a table in braces one after the other. -/
def entries?From : List (List String × Value) → Entries → Option Entries
  | [], bound => some bound
  | (path, item) :: rest, bound =>
    if isConsistent item then
      match assign? (.value item) path bound with
      | some bound => entries?From rest bound
      | none => none
    else none

end

/-- A document under construction with the path of the current header. -/
structure Draft where
  root : Entries
  current : List String

def Draft.apply? (d : Draft) : Statement → Option Draft
  | .assign path value =>
    if isConsistent value then
      (descend? (assign? (.value value) path) d.current d.root).map fun root => { d with root }
    else none
  | .table path =>
    match path.getLast? with
    | none => none
    | some key => (descend? (openTable? key) path.dropLast d.root).map fun root => ⟨root, path⟩
  | .tableEntry path =>
    match path.getLast? with
    | none => none
    | some key => (descend? (openItem? key) path.dropLast d.root).map fun root => ⟨root, path⟩

/-- Whether a node is an array or a table with nothing in it. -/
def Node.isEmptyCollection : Node → Bool
  | .value (.array []) | .value (.inlineTable []) | .table _ [] => true
  | _ => false

/-- The name that a node chooses among several: a text, or a table whose one key, with nothing
behind it, is the name. -/
def Node.choice? : Node → Option String
  | .value (.text name) => some name
  | .value (.inlineTable [([name], item)]) =>
    if Node.isEmptyCollection (.value item) then some name else none
  | .table _ [(name, item)] => if item.isEmptyCollection then some name else none
  | _ => none

def read? (s : String) : Option Entries := do
  let statements ← statements? s
  let draft ← statements.foldlM Draft.apply? ⟨[], []⟩
  some draft.root

end EntityForge.Toml
