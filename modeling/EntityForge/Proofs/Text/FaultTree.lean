import EntityForge.Proofs.Text.Keyed
import EntityForge.Text.FaultTree
import Mathlib.Data.List.Perm.Basic

/-!
What a fault tree holds. A history of recorded messages and merged trees is written down as a log, in
which every message stands with the whole path of routes that it was recorded at. The tree that comes
of the history has at each path the messages of the log, in their order, and its listing has each
entry of the log once. Where messages are recorded one after the other, at the root or directly under
a route, the tree is told by the list of them.
-/

namespace EntityForge

abbrev FaultLog := List (List String × String)

namespace FaultLog

def under (route : String) (log : FaultLog) : FaultLog :=
  log.map fun (path, message) => (route :: path, message)

def messagesAt (log : FaultLog) (path : List String) : List String :=
  (log.filter (·.1 = path)).map (·.2)

variable {log more : FaultLog} {path : List String} {route : String}

@[simp] theorem messagesAt_nil (path : List String) : messagesAt [] path = [] := rfl

theorem messagesAt_append : messagesAt (log ++ more) path =
    log.messagesAt path ++ more.messagesAt path := by
  simp [messagesAt]

@[simp] theorem messagesAt_under_root : (log.under route).messagesAt [] = [] := by
  simp [messagesAt, under, List.filter_map, Function.comp_def]

@[simp] theorem messagesAt_under_self :
    (log.under route).messagesAt (route :: path) = log.messagesAt path := by
  simp [messagesAt, under, List.filter_map, Function.comp_def]

theorem messagesAt_under_of_ne {other : String} (h : route ≠ other) :
    (log.under route).messagesAt (other :: path) = [] := by
  simp [messagesAt, under, List.filter_map, Function.comp_def, h]

theorem messagesAt_under_congr (h : ∀ path, log.messagesAt path = more.messagesAt path)
    (route : String) (path : List String) :
    (log.under route).messagesAt path = (more.under route).messagesAt path := by
  cases path with
  | nil => rw [messagesAt_under_root, messagesAt_under_root]
  | cons other path =>
    by_cases hroute : route = other
    · subst hroute
      rw [messagesAt_under_self, messagesAt_under_self, h]
    · rw [messagesAt_under_of_ne hroute, messagesAt_under_of_ne hroute]

/-- How often a message stands at a path can be counted among the messages of the path. -/
theorem count_messagesAt (log : FaultLog) (path : List String) (message : String) :
    (log.messagesAt path).count message = log.count (path, message) := by
  induction log with
  | nil => rfl
  | cons entry rest ih =>
    obtain ⟨here, text⟩ := entry
    by_cases hhere : here = path
    · by_cases htext : text = message <;> simp_all [messagesAt]
    · simp_all [messagesAt]

/-- Logs with the same messages at every path have the same entries. -/
theorem perm_of_messagesAt (h : ∀ path, log.messagesAt path = more.messagesAt path) :
    log.Perm more := by
  rw [List.perm_iff_count]
  rintro ⟨path, message⟩
  rw [← count_messagesAt, ← count_messagesAt, h]

end FaultLog

/-- A step that records something in a tree. What is merged was recorded in a tree of its own. -/
inductive FaultStep where
  | add (message : String)
  | addAt (route message : String)
  | mergeAt (route : String) (merged : List FaultStep)

namespace FaultStep

mutual

def log : FaultStep → FaultLog
  | add message => [([], message)]
  | addAt route message => [([route], message)]
  | mergeAt route merged => (logAll merged).under route

def logAll : List FaultStep → FaultLog
  | [] => []
  | step :: rest => step.log ++ logAll rest

end

end FaultStep

namespace FaultTree

mutual

def after (tree : FaultTree) : FaultStep → FaultTree
  | .add message => tree.add message
  | .addAt route message => tree.addAt route message
  | .mergeAt route merged => tree.mergeAt route (afterAll none merged)

/-- The tree after steps in turn. -/
def afterAll (tree : FaultTree) : List FaultStep → FaultTree
  | [] => tree
  | step :: rest => afterAll (tree.after step) rest

end

/-- The subtree of a route; where there is no such route, nothing is recorded. -/
def child (tree : FaultTree) (route : String) : FaultTree := (tree.children.get? route).getD none

def messagesAt (tree : FaultTree) : List String → List String
  | [] => tree.messages
  | route :: path => (tree.child route).messagesAt path

mutual

/-- All messages with their paths, a node's own messages first. -/
def log : FaultTree → FaultLog
  | node ms cs => ms.map ([], ·) ++ logAll cs

/-- The messages of all subtrees with their paths. -/
def logAll : List (String × FaultTree) → FaultLog
  | [] => []
  | (route, t) :: rest => (log t).under route ++ logAll rest

end

/-! The listing and the size of a tree, by its log. -/

mutual

theorem flattenFrom_eq (above : String) (tree : FaultTree) : flattenFrom above tree =
    tree.log.map fun (path, message) => (path.foldl joinRoute above, message) := by
  obtain ⟨messages, children⟩ := tree
  rw [flattenFrom, log, List.map_append, flattenAll_eq above children, List.map_map]
  rfl

theorem flattenAll_eq (above : String) (children : List (String × FaultTree)) :
    flattenAll above children =
      (logAll children).map fun (path, message) => (path.foldl joinRoute above, message) := by
  cases children with
  | nil => rfl
  | cons first rest =>
    obtain ⟨route, tree⟩ := first
    rw [flattenAll, logAll, List.map_append, flattenFrom_eq _ tree, flattenAll_eq above rest,
      FaultLog.under, List.map_map]
    rfl

end

mutual

theorem size_eq (tree : FaultTree) : tree.size = tree.log.length := by
  obtain ⟨messages, children⟩ := tree
  rw [size, log, List.length_append, List.length_map, sizeAll_eq children]

theorem sizeAll_eq (children : List (String × FaultTree)) :
    sizeAll children = (logAll children).length := by
  cases children with
  | nil => rfl
  | cons first rest =>
    obtain ⟨route, tree⟩ := first
    rw [sizeAll, logAll, List.length_append, FaultLog.under, List.length_map, size_eq tree,
      sizeAll_eq rest]

end

mutual

theorem isEmpty_iff_size (tree : FaultTree) : tree.isEmpty = true ↔ tree.size = 0 := by
  obtain ⟨messages, children⟩ := tree
  rw [isEmpty, size, Bool.and_eq_true, List.isEmpty_iff, Nat.add_eq_zero_iff,
    List.length_eq_zero_iff, allEmpty_iff_size children]

theorem allEmpty_iff_size (children : List (String × FaultTree)) :
    allEmpty children = true ↔ sizeAll children = 0 := by
  cases children with
  | nil => exact iff_of_true rfl rfl
  | cons first rest =>
    obtain ⟨route, tree⟩ := first
    rw [allEmpty, sizeAll, Bool.and_eq_true, Nat.add_eq_zero_iff, isEmpty_iff_size tree,
      allEmpty_iff_size rest]

end

theorem isEmpty_iff_log (tree : FaultTree) : tree.isEmpty = true ↔ tree.log = [] := by
  rw [isEmpty_iff_size, size_eq, List.length_eq_zero_iff]

/-! Trees whose routes are in order at every node. -/

/-- At every node the routes are in order, so that each leads to one subtree. -/
inductive WellOrdered : FaultTree → Prop where
  | node {messages : List String} {children : Keyed FaultTree} (hordered : children.Ordered)
      (hchildren : ∀ child ∈ children, WellOrdered child.2) :
      WellOrdered (.node messages children)

variable {tree other : FaultTree} {messages : List String} {children into : Keyed FaultTree}
  {route : String} {path : List String}

theorem wellOrdered_none : none.WellOrdered := .node List.Pairwise.nil nofun

theorem WellOrdered.child (h : tree.WellOrdered) (route : String) :
    (tree.child route).WellOrdered := by
  obtain ⟨_, hchildren⟩ := h
  unfold FaultTree.child
  cases hget : Keyed.get? _ route with
  | none => exact wellOrdered_none
  | some child => exact hchildren _ (Keyed.mem_of_get? hget)

theorem WellOrdered.insert (h : WellOrdered (.node messages children)) (route : String)
    (htree : tree.WellOrdered) : WellOrdered (.node messages (children.insert route tree)) := by
  obtain ⟨hordered, hchildren⟩ := h
  refine .node (hordered.insert route tree) fun child hchild => ?_
  rcases Keyed.mem_insert hchild with rfl | hchild
  · exact htree
  · exact hchildren child hchild

theorem WellOrdered.add (h : tree.WellOrdered) (message : String) :
    (tree.add message).WellOrdered := by
  obtain ⟨hordered, hchildren⟩ := h
  exact .node hordered hchildren

/-! Messages by path. -/

@[simp] theorem messagesAt_none (path : List String) : none.messagesAt path = [] := by
  induction path with
  | nil => rfl
  | cons route path ih => exact ih

private theorem messagesAt_own (messages : List String) :
    FaultLog.messagesAt (messages.map (([], ·))) [] = messages := by
  simp [FaultLog.messagesAt, List.filter_map, Function.comp_def]

private theorem messagesAt_own_below (messages : List String) (route : String)
    (path : List String) : FaultLog.messagesAt (messages.map (([], ·))) (route :: path) = [] := by
  simp [FaultLog.messagesAt]

private theorem messagesAt_logAll_root (children : List (String × FaultTree)) :
    (logAll children).messagesAt [] = [] := by
  induction children with
  | nil => rfl
  | cons first rest ih =>
    rw [logAll, FaultLog.messagesAt_append, FaultLog.messagesAt_under_root, ih, List.append_nil]

/-- What subtrees have below a route is what the subtree of the route has. -/
private theorem messagesAt_logAll (h : children.Ordered) (route : String) (path : List String) :
    (logAll children).messagesAt (route :: path) =
      ((children.get? route).getD none).log.messagesAt path := by
  induction children with
  | nil => rfl
  | cons first rest ih =>
    obtain ⟨key, child⟩ := first
    rw [logAll, FaultLog.messagesAt_append, ih (List.pairwise_cons.mp h).2]
    by_cases hroute : route = key
    · subst hroute
      rw [Keyed.get?_cons_self, h.get?_tail, FaultLog.messagesAt_under_self]
      exact List.append_nil _
    · rw [Keyed.get?_cons_of_ne hroute, FaultLog.messagesAt_under_of_ne (Ne.symm hroute),
        List.nil_append]

/-- The log of a tree has at each path the messages that stand there. -/
theorem WellOrdered.messagesAt_log (h : tree.WellOrdered) (path : List String) :
    tree.log.messagesAt path = tree.messagesAt path := by
  induction path generalizing tree with
  | nil =>
    obtain ⟨messages, children⟩ := tree
    rw [log, FaultLog.messagesAt_append, messagesAt_own, messagesAt_logAll_root, List.append_nil]
    rfl
  | cons route path ih =>
    rw [messagesAt, ← ih (h.child route)]
    obtain ⟨hordered, _⟩ := h
    rw [log, FaultLog.messagesAt_append, messagesAt_own_below, List.nil_append,
      messagesAt_logAll hordered]
    rfl

/-- Messages behind those of the root. -/
theorem messagesAt_behind (own messages : List String) (children : List (String × FaultTree))
    (path : List String) : (node (own ++ messages) children).messagesAt path =
      (node own children).messagesAt path ++ FaultLog.messagesAt (messages.map (([], ·))) path := by
  cases path with
  | nil => rw [messagesAt_own]; rfl
  | cons route path => rw [messagesAt_own_below, List.append_nil]; rfl

/-- A subtree in the place of the one that was there adds, at the paths below its route, what it has
more than that one. -/
theorem messagesAt_insert {log : FaultLog} (htree : ∀ path, tree.messagesAt path =
      (child (.node messages children) route).messagesAt path ++ log.messagesAt path)
    (path : List String) : (node messages (children.insert route tree)).messagesAt path =
      (node messages children).messagesAt path ++ (log.under route).messagesAt path := by
  cases path with
  | nil => rw [FaultLog.messagesAt_under_root, List.append_nil]; rfl
  | cons other path =>
    rw [messagesAt, messagesAt]
    by_cases hroute : other = route
    · subst hroute
      have hchild : child (.node messages (children.insert other tree)) other = tree := by
        rw [child, FaultTree.children, Keyed.get?_insert_self, Option.getD_some]
      rw [hchild, htree, FaultLog.messagesAt_under_self]
    · have hchild : child (.node messages (children.insert route tree)) other =
          child (.node messages children) other := by
        rw [child, FaultTree.children, Keyed.get?_insert_of_ne hroute]
        rfl
      rw [hchild, FaultLog.messagesAt_under_of_ne (Ne.symm hroute), List.append_nil]

/-! What a tree gains. -/

/-- A tree has become another one that has, behind what was there at each path, what a log has. -/
structure Gains (tree : FaultTree) (log : FaultLog) (next : FaultTree) : Prop where
  wellOrdered : next.WellOrdered
  messagesAt : ∀ path, next.messagesAt path = tree.messagesAt path ++ log.messagesAt path

namespace Gains

variable {log more : FaultLog} {next last : FaultTree}

theorem refl (h : tree.WellOrdered) : tree.Gains [] tree :=
  ⟨h, fun _ => (List.append_nil _).symm⟩

theorem trans (h : tree.Gains log next) (h' : next.Gains more last) :
    tree.Gains (log ++ more) last := by
  refine ⟨h'.wellOrdered, fun path => ?_⟩
  rw [h'.messagesAt, h.messagesAt, FaultLog.messagesAt_append, List.append_assoc]

/-- Nothing but what is gained enters the log. -/
theorem log_perm (h : tree.Gains log next) (htree : tree.WellOrdered) :
    next.log.Perm (tree.log ++ log) := by
  apply FaultLog.perm_of_messagesAt
  intro path
  rw [h.wellOrdered.messagesAt_log, h.messagesAt, FaultLog.messagesAt_append, htree.messagesAt_log]

theorem size (h : tree.Gains log next) (htree : tree.WellOrdered) :
    next.size = tree.size + log.length := by
  rw [size_eq, (h.log_perm htree).length_eq, List.length_append, ← size_eq]

/-- A subtree that gains something. -/
theorem insert (h : WellOrdered (.node messages children))
    (hchild : (child (.node messages children) route).Gains log tree) :
    (node messages children).Gains (log.under route)
      (.node messages (children.insert route tree)) :=
  ⟨h.insert route hchild.wellOrdered, messagesAt_insert hchild.messagesAt⟩

/-- Recording a message. -/
theorem add (h : tree.WellOrdered) (message : String) :
    tree.Gains [([], message)] (tree.add message) := by
  refine ⟨h.add message, fun path => ?_⟩
  obtain ⟨messages, children⟩ := tree
  exact messagesAt_behind messages [message] children path

theorem addAt (h : tree.WellOrdered) (route message : String) :
    tree.Gains [([route], message)] (tree.addAt route message) := by
  obtain ⟨messages, children⟩ := tree
  exact insert h (add (h.child route) message)

/-- Merging subtrees one after the other, each under its route, if each of them can be merged into
any tree. An empty one is passed over, which is to say that its log is empty. -/
private theorem appendAll (hordered : children.Ordered)
    (hchildren : ∀ entry ∈ children, ∀ tree : FaultTree, tree.WellOrdered →
      tree.Gains entry.2.log (tree.append entry.2))
    (hinto : WellOrdered (.node messages into)) :
    (node messages into).Gains (logAll children) (.node messages (appendAll into children)) := by
  induction children generalizing into with
  | nil => exact refl hinto
  | cons first rest ih =>
    obtain ⟨route, tree⟩ := first
    obtain ⟨htree, hrest⟩ := List.forall_mem_cons.mp hchildren
    have hnext : (node messages into).Gains (tree.log.under route)
        (.node messages (if tree.isEmpty then into else
          into.insert route (append ((into.get? route).getD FaultTree.none) tree))) := by
      split
      · next hempty =>
        rw [(isEmpty_iff_log tree).mp hempty]
        exact refl hinto
      · exact insert hinto (htree _ (hinto.child route))
    rw [FaultTree.appendAll, logAll]
    exact hnext.trans (ih (List.pairwise_cons.mp hordered).2 hrest hnext.wellOrdered)

/-- Merging a whole tree, node by node. -/
theorem append (h : tree.WellOrdered) (hother : other.WellOrdered) :
    tree.Gains other.log (tree.append other) := by
  induction hother generalizing tree with
  | @node messages children hordered hchildren ih =>
    obtain ⟨own, into⟩ := tree
    have hroot : (node own into).Gains (messages.map (([], ·))) (.node (own ++ messages) into) := by
      obtain ⟨hinto, hsubtrees⟩ := h
      exact ⟨.node hinto hsubtrees, messagesAt_behind own messages into⟩
    rw [FaultTree.append, FaultTree.log]
    exact hroot.trans (appendAll hordered (fun entry hentry _ => ih entry hentry) hroot.wellOrdered)

theorem mergeAt (h : tree.WellOrdered) (hother : other.WellOrdered) (route : String) :
    tree.Gains (other.log.under route) (tree.mergeAt route other) := by
  obtain ⟨messages, children⟩ := tree
  have hsingle : Keyed.Ordered [(route, other)] := List.pairwise_singleton _ _
  have hmerged := appendAll hsingle
    (List.forall_mem_singleton.mpr fun _ htree => append htree hother) h
  rwa [logAll, logAll, List.append_nil] at hmerged

mutual

/-- Every step records what its log says, merged trees included. -/
theorem after {tree : FaultTree} (h : tree.WellOrdered) (step : FaultStep) :
    tree.Gains step.log (tree.after step) := by
  cases step with
  | add message => exact add h message
  | addAt route message => exact addAt h route message
  | mergeAt route merged =>
    obtain ⟨hordered, hmessages⟩ := afterAll wellOrdered_none merged
    obtain ⟨hnext, hgained⟩ := mergeAt h hordered route
    refine ⟨hnext, fun path => ?_⟩
    rw [FaultTree.after, hgained, FaultStep.log]
    refine congrArg _ (FaultLog.messagesAt_under_congr (fun path => ?_) route path)
    rw [hordered.messagesAt_log, hmessages, messagesAt_none, List.nil_append]

theorem afterAll {tree : FaultTree} (h : tree.WellOrdered) (steps : List FaultStep) :
    tree.Gains (FaultStep.logAll steps) (tree.afterAll steps) := by
  cases steps with
  | nil => exact refl h
  | cons step rest =>
    have hstep := after h step
    exact hstep.trans (afterAll hstep.wellOrdered rest)

end

end Gains

/-- Nothing is lost and nothing is there twice. After any history the tree has at each path the
messages that were recorded or merged there, in their order; its listing has each recorded message
once, with the routes of its path joined; its size is their number; and the ways to ask whether
anything was recorded agree. -/
theorem records_kept (steps : List FaultStep) :
    let tree := none.afterAll steps
    let recorded := FaultStep.logAll steps
    (∀ path, tree.messagesAt path = recorded.messagesAt path) ∧
    tree.flatten.Perm
      (recorded.map fun (path, message) => (path.foldl joinRoute "", message)) ∧
    tree.size = tree.flatten.length ∧ tree.size = recorded.length ∧
    (tree.isEmpty = true ↔ tree.flatten = []) ∧ (tree.isEmpty = true ↔ tree.size = 0) ∧
    (tree.isEmpty = true ↔ tree.toResult = .ok ()) := by
  intro tree recorded
  have hgains : none.Gains recorded tree := .afterAll wellOrdered_none steps
  have hflatten := flattenFrom_eq "" tree
  have hlength : tree.size = tree.flatten.length := by
    rw [size_eq, flatten, hflatten, List.length_map]
  refine ⟨fun path => ?_, ?_, hlength, ?_, ?_, isEmpty_iff_size tree, ?_⟩
  · rw [hgains.messagesAt, messagesAt_none, List.nil_append]
  · rw [flatten, hflatten]
    exact (hgains.log_perm wellOrdered_none).map _
  · rw [hgains.size wellOrdered_none]
    exact Nat.zero_add _
  · rw [isEmpty_iff_size, hlength, List.length_eq_zero_iff]
  · unfold toResult
    split
    · next hempty => exact iff_of_true hempty rfl
    · next hempty => exact iff_of_false hempty nofun

/-- Trees merged at one route meet in their routes. -/
example :
    (none.afterAll [.mergeAt "p" [.addAt "q" "b", .add "c"], .add "a", .mergeAt "e" [],
      .mergeAt "p" [.mergeAt "q" [.add "d"]]]).flatten =
      [("", "a"), ("p", "c"), ("p.q", "b"), ("p.q", "d")] := by
  decide +kernel

/-! Messages at the root and directly under a route. -/

@[simp] theorem children_add (tree : FaultTree) (message : String) :
    (tree.add message).children = tree.children := by
  obtain ⟨messages, children⟩ := tree
  rfl

@[simp] theorem messages_add (tree : FaultTree) (message : String) :
    (tree.add message).messages = tree.messages ++ [message] := by
  obtain ⟨messages, children⟩ := tree
  rfl

/-- The messages at the root or directly under a route. -/
def under (tree : FaultTree) : Option String → List String
  | .none => tree.messages
  | some route => ((tree.children.get? route).getD none).messages

/-- Records a message at the root or under a route. -/
def record (tree : FaultTree) : Option String × String → FaultTree
  | (.none, message) => tree.add message
  | (some route, message) => tree.addAt route message

/-- A tree holds messages with their routes: those of each place in order, and no others. Its routes
are in order, and none of them is without messages or has routes below it. -/
structure Holds (tree : FaultTree) (entries : List (Option String × String)) : Prop where
  ordered : tree.children.Ordered
  leaves : ∀ child ∈ tree.children, child.2.messages ≠ [] ∧ child.2.children = []
  under : ∀ route, tree.under route = (entries.filter (·.1 = route)).map (·.2)
  size : tree.size = entries.length

variable {entries : List (Option String × String)}

theorem holds_none : none.Holds [] where
  ordered := List.Pairwise.nil
  leaves := nofun
  under route := by cases route <;> rfl
  size := rfl

theorem under_eq (tree : FaultTree) (route : Option String) :
    tree.under route = tree.messagesAt route.toList := by
  cases route <;> rfl

/-- Routes are in order at every node, since there are none below the root. -/
theorem Holds.wellOrdered (h : tree.Holds entries) : tree.WellOrdered := by
  obtain ⟨messages, children⟩ := tree
  refine .node h.ordered fun child hchild => ?_
  obtain ⟨route, own, below⟩ := child
  obtain rfl : below = [] := (h.leaves _ hchild).2
  exact .node List.Pairwise.nil nofun

/-- A message that is gained at the root or directly under a route. -/
theorem Holds.gains {next : FaultTree} {route : Option String} {message : String}
    (h : tree.Holds entries) (hgains : tree.Gains [(route.toList, message)] next)
    (hordered : next.children.Ordered)
    (hleaves : ∀ child ∈ next.children, child.2.messages ≠ [] ∧ child.2.children = []) :
    next.Holds (entries ++ [(route, message)]) where
  ordered := hordered
  leaves := hleaves
  under place := by
    have hplace : FaultLog.messagesAt [(route.toList, message)] place.toList =
        ([(route, message)].filter (·.1 = place)).map (·.2) := by
      have hpath : route.toList = place.toList ↔ route = place := by
        cases route <;> cases place <;> simp
      by_cases hroute : route = place <;> simp [FaultLog.messagesAt, hpath, hroute]
    rw [under_eq, hgains.messagesAt, ← under_eq, h.under, hplace, List.filter_append,
      List.map_append]
  size := by
    rw [hgains.size h.wellOrdered, h.size, List.length_append, List.length_singleton,
      List.length_singleton]

theorem Holds.add (h : tree.Holds entries) (message : String) :
    (tree.add message).Holds (entries ++ [(.none, message)]) := by
  refine h.gains (.add h.wellOrdered message) ?_ ?_
  · rw [children_add]
    exact h.ordered
  · rw [children_add]
    exact h.leaves

theorem Holds.addAt (h : tree.Holds entries) (route message : String) :
    (tree.addAt route message).Holds (entries ++ [(some route, message)]) := by
  refine h.gains (.addAt h.wellOrdered route message) ?_ fun child hchild => ?_
  all_goals obtain ⟨messages, children⟩ := tree
  · exact h.ordered.insert _ _
  · rcases Keyed.mem_insert hchild with rfl | hchild
    · refine ⟨by simp, ?_⟩
      rw [children_add]
      cases hget : Keyed.get? children route with
      | none => rfl
      | some child => exact (h.leaves _ (Keyed.mem_of_get? hget)).2
    · exact h.leaves child hchild

theorem Holds.record (h : tree.Holds entries) (entry : Option String × String) :
    (tree.record entry).Holds (entries ++ [entry]) :=
  match entry with
  | (.none, message) => h.add message
  | (some route, message) => h.addAt route message

theorem Holds.records (h : tree.Holds entries) (more : List (Option String × String)) :
    (more.foldl FaultTree.record tree).Holds (entries ++ more) := by
  induction more generalizing tree entries with
  | nil => rwa [List.append_nil]
  | cons entry more ih =>
    have hmore := ih (h.record entry)
    rwa [List.append_assoc] at hmore

theorem Holds.toResult (h : tree.Holds entries) :
    tree.toResult = if entries = [] then .ok () else .error tree := by
  have hempty : tree.isEmpty = true ↔ entries = [] := by
    rw [isEmpty_iff_size, h.size, List.length_eq_zero_iff]
  simp only [FaultTree.toResult, hempty]

end FaultTree

end EntityForge
