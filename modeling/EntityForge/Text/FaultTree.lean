import EntityForge.Text.Keyed

/-!
Faults collected along routes, so that a whole pass is reported at once. Each node holds its own
messages in the order in which they came and its children ordered by route.
-/

namespace EntityForge

/-- Messages and, under each route, further faults. -/
inductive FaultTree where
  | node (messages : List String) (children : List (String × FaultTree))
  deriving Inhabited

namespace FaultTree

def none : FaultTree := node [] []

def messages : FaultTree → List String
  | node ms _ => ms

def children : FaultTree → Keyed FaultTree
  | node _ cs => cs

def add (message : String) : FaultTree → FaultTree
  | node ms cs => node (ms ++ [message]) cs

def addAt (route message : String) : FaultTree → FaultTree
  | node ms cs => node ms (Keyed.alter route none (add message) cs)

mutual

/-- Whether no message is recorded anywhere. -/
def isEmpty : FaultTree → Bool
  | node ms cs => ms.isEmpty && allEmpty cs

def allEmpty : List (String × FaultTree) → Bool
  | [] => true
  | (_, t) :: rest => isEmpty t && allEmpty rest

end

mutual

def size : FaultTree → Nat
  | node ms cs => ms.length + sizeAll cs

def sizeAll : List (String × FaultTree) → Nat
  | [] => 0
  | (_, t) :: rest => size t + sizeAll rest

end

/-- A route below another one; the root has the empty route. -/
def joinRoute (above route : String) : String :=
  if above = "" then route else above ++ "." ++ route

mutual

/-- All messages with their routes below `above`, a node's own messages first. -/
def flattenFrom (above : String) : FaultTree → List (String × String)
  | node ms cs => ms.map (above, ·) ++ flattenAll above cs

/-- The messages of all subtrees with their routes. -/
def flattenAll (above : String) : List (String × FaultTree) → List (String × String)
  | [] => []
  | (route, t) :: rest => flattenFrom (joinRoute above route) t ++ flattenAll above rest

end

def flatten (t : FaultTree) : List (String × String) := flattenFrom "" t

mutual

/-- Adds the messages of the second tree behind those of the first, node by node. -/
def append (into : FaultTree) : FaultTree → FaultTree
  | node ms cs => node (into.messages ++ ms) (appendAll into.children cs)

/-- Adds each subtree under its route, empty ones excepted. -/
def appendAll (into : Keyed FaultTree) : List (String × FaultTree) → Keyed FaultTree
  | [] => into
  | (route, t) :: rest =>
    let into :=
      if isEmpty t then into else into.insert route (append ((into.get? route).getD none) t)
    appendAll into rest

end

/-- Merges a tree under a route; an empty tree leaves no trace. -/
def mergeAt (t : FaultTree) (route : String) (other : FaultTree) : FaultTree :=
  node t.messages (appendAll t.children [(route, other)])

/-- One line per message, with its route in front unless it stands at the root. -/
def display (t : FaultTree) : String :=
  "\n".intercalate (t.flatten.map fun (route, message) =>
    if route = "" then message else route ++ ": " ++ message)

/-- The tree as an error when anything is recorded. -/
def toResult (t : FaultTree) : Except FaultTree Unit := if t.isEmpty then .ok () else .error t

end FaultTree

end EntityForge
