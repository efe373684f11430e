import Mathlib.Logic.Relation
import Callsite.Graph

/-!
# Walks through graphs

A walk visits what is below the pending nodes without passing through a visited one, each
node once, and takes what is below an earlier child before what is below a later one.  It
does so on any graph.  Told with a flag for each node, it takes a number of turns that is
known in advance and never asks for a flag that is not there.
-/

namespace Callsite.Graph

open Relation

variable (graph : Graph)

/-- A node lists another among its children, which need not exist. -/
def HasChild (parent child : NodeId) : Prop := child ∈ graph.children parent

/-- A node is reached from another by passing from nodes to their children. -/
def Below (top bottom : NodeId) : Prop := ReflTransGen graph.HasChild top bottom

/-- A node is reached from the first one.  All nodes on the way exist, since an index
without a node has no children. -/
def Reachable (id : NodeId) : Prop := graph.Below 0 id

/-- A node lies below an earlier child and another below a later child of one node. -/
def LeftOf (left right : NodeId) : Prop :=
  ∃ parent first second, [first, second].Sublist (graph.children parent) ∧
    graph.Below first left ∧ graph.Below second right

/-- A node is reached from another through allowed nodes, itself among them. -/
inductive Through (allowed : List NodeId) : NodeId → NodeId → Prop where
  | here {id : NodeId} : id ∈ allowed → Through allowed id id
  | step {start next id : NodeId} : start ∈ allowed → next ∈ graph.children start →
      Through allowed next id → Through allowed start id

variable {graph} {allowed unvisited pending : List NodeId} {start id : NodeId}

theorem lt_size_of_hasChild {parent child : NodeId} (has : graph.HasChild parent child) :
    parent < graph.size := by
  rw [HasChild, children] at has
  split at has
  · next node found => exact (Array.getElem?_eq_some_iff.mp found).1
  · cases has

theorem isTerminating_iff_exists :
    graph.isTerminating id = true ↔
      ∃ node, graph.nodes[id]? = some node ∧ node.children = [] ∧ node.exceptions = [] := by
  simp only [isTerminating, Option.any_eq_true, Node.isTerminating_iff]

theorem children_of_isTerminating (ends : graph.isTerminating id = true) :
    graph.children id = [] := by
  obtain ⟨node, found, childless, _⟩ := isTerminating_iff_exists.mp ends
  simp only [children, found, childless]

/-! ## What a walk visits -/

namespace Through

theorem mem (path : graph.Through allowed start id) : id ∈ allowed := by
  induction path with
  | here member => exact member
  | step _ _ _ ih => exact ih

theorem toBelow (path : graph.Through allowed start id) : graph.Below start id := by
  induction path with
  | here _ => exact .refl
  | step _ isChild _ ih => exact .head isChild ih

theorem mono {more : List NodeId} (subset : allowed ⊆ more)
    (path : graph.Through allowed start id) : graph.Through more start id := by
  induction path with
  | here member => exact .here (subset member)
  | step member isChild _ ih => exact .step (subset member) isChild ih

/-- A path avoids a node, or ends there, or goes on from one of its children and avoids it
from then on. -/
theorem avoiding (path : graph.Through allowed start id) (visited : NodeId) :
    graph.Through (allowed.erase visited) start id ∨ id = visited ∨
      ∃ child ∈ graph.children visited, graph.Through (allowed.erase visited) child id := by
  induction path with
  | @here id member =>
      by_cases same : id = visited
      · exact .inr (.inl same)
      · exact .inl (.here ((List.mem_erase_of_ne same).mpr member))
  | @step start next id member isChild _ ih =>
      rcases ih with avoids | ends
      · by_cases same : start = visited
        · subst same
          exact .inr (.inr ⟨next, isChild, avoids⟩)
        · exact .inl (.step ((List.mem_erase_of_ne same).mpr member) isChild avoids)
      · exact .inr ends

end Through

/-- Among all nodes paths are not restricted. -/
theorem through_range_iff :
    graph.Through (List.range graph.size) start id ↔ id < graph.size ∧ graph.Below start id := by
  constructor
  · intro path
    exact ⟨List.mem_range.mp path.mem, path.toBelow⟩
  · intro ⟨present, path⟩
    induction path using ReflTransGen.head_induction_on with
    | refl => exact .here (List.mem_range.mpr present)
    | head isChild _ ih =>
        exact .step (List.mem_range.mpr (lt_size_of_hasChild isChild)) isChild ih

/-- A path from a pending node goes through the first one, or from another one around
it. -/
theorem through_cons_iff {head : NodeId} {rest : List NodeId} (fresh : head ∈ allowed) :
    (∃ start ∈ head :: rest, graph.Through allowed start id) ↔
      id = head ∨ ∃ start ∈ graph.children head ++ rest,
        graph.Through (allowed.erase head) start id := by
  constructor
  · rintro ⟨start, member, path⟩
    rcases path.avoiding head with avoids | here | ⟨child, isChild, avoids⟩
    · rcases List.mem_cons.mp member with rfl | later
      · cases avoids with
        | here _ => exact .inl rfl
        | step _ isChild onward => exact .inr ⟨_, List.mem_append_left rest isChild, onward⟩
      · exact .inr ⟨start, List.mem_append_right _ later, avoids⟩
    · exact .inl here
    · exact .inr ⟨child, List.mem_append_left rest isChild, avoids⟩
  · have subset : allowed.erase head ⊆ allowed := List.erase_subset
    rintro (rfl | ⟨start, member, path⟩)
    · exact ⟨id, List.mem_cons_self, .here fresh⟩
    · rcases List.mem_append.mp member with isChild | later
      · exact ⟨head, List.mem_cons_self, .step fresh isChild (path.mono subset)⟩
      · exact ⟨start, List.mem_cons_of_mem head later, path.mono subset⟩

/-- A walk lists the ends of paths that are reached from pending nodes through unvisited
ones. -/
theorem mem_walk_iff :
    id ∈ graph.walk unvisited pending ↔ graph.isTerminating id = true ∧
      ∃ start ∈ pending, graph.Through unvisited start id := by
  fun_induction graph.walk unvisited pending with
  | case1 unvisited => simp
  | case2 unvisited head rest fresh _ later ends ih =>
      rw [through_cons_iff fresh, List.mem_cons, ih]
      constructor
      · rintro (rfl | ⟨idEnds, path⟩)
        · exact ⟨ends, .inl rfl⟩
        · exact ⟨idEnds, .inr path⟩
      · rintro ⟨idEnds, same | path⟩
        · exact .inl same
        · exact .inr ⟨idEnds, path⟩
  | case3 unvisited head rest fresh _ later notEnd ih =>
      rw [through_cons_iff fresh, ih]
      constructor
      · rintro ⟨idEnds, path⟩
        exact ⟨idEnds, .inr path⟩
      · rintro ⟨idEnds, rfl | path⟩
        · exact absurd idEnds notEnd
        · exact ⟨idEnds, path⟩
  | case4 unvisited head rest visited _ ih =>
      rw [ih]
      have nowhere : ¬ graph.Through unvisited head id := by
        intro path
        cases path with
        | here member => exact visited member
        | step member _ _ => exact visited member
      simp [nowhere]

/-- A walk visits no node twice. -/
theorem nodup_walk (unique : unvisited.Nodup) : (graph.walk unvisited pending).Nodup := by
  fun_induction graph.walk unvisited pending with
  | case1 unvisited => exact List.nodup_nil
  | case2 unvisited head rest fresh _ later ends ih =>
      refine List.nodup_cons.mpr ⟨?_, ih (unique.erase head)⟩
      intro again
      obtain ⟨_, start, _, path⟩ := mem_walk_iff.mp again
      exact unique.not_mem_erase path.mem
  | case3 unvisited head rest fresh _ later notEnd ih => exact ih (unique.erase head)
  | case4 unvisited head rest visited _ ih => exact ih unique

/-! ## The order of a walk -/

namespace LeftOf

variable {left right : NodeId}

theorem below_left {bottom : NodeId} (apart : graph.LeftOf left right)
    (lower : graph.Below left bottom) : graph.LeftOf bottom right := by
  obtain ⟨parent, first, second, siblings, above, below⟩ := apart
  exact ⟨parent, first, second, siblings, above.trans lower, below⟩

theorem below_right {bottom : NodeId} (apart : graph.LeftOf left right)
    (lower : graph.Below right bottom) : graph.LeftOf left bottom := by
  obtain ⟨parent, first, second, siblings, above, below⟩ := apart
  exact ⟨parent, first, second, siblings, above, below.trans lower⟩

end LeftOf

/-- The children of a node stand from left to right. -/
theorem pairwise_children (graph : Graph) (parent : NodeId) :
    (graph.children parent).Pairwise graph.LeftOf := by
  rw [List.pairwise_iff_forall_sublist]
  intro first second siblings
  exact ⟨parent, first, second, siblings, .refl, .refl⟩

/-- If the pending nodes stand from left to right, they do so with the children of the first
one in its place. -/
theorem pairwise_children_append {head : NodeId} {rest : List NodeId}
    (ordered : (head :: rest).Pairwise graph.LeftOf) :
    (graph.children head ++ rest).Pairwise graph.LeftOf := by
  obtain ⟨first, others⟩ := List.pairwise_cons.mp ordered
  refine List.pairwise_append.mpr ⟨graph.pairwise_children head, others, ?_⟩
  intro child isChild other later
  exact (first other later).below_left (.single isChild)

/-- A walk from nodes that stand from left to right lists the ends from left to right. -/
theorem pairwise_walk (ordered : pending.Pairwise graph.LeftOf) :
    (graph.walk unvisited pending).Pairwise graph.LeftOf := by
  fun_induction graph.walk unvisited pending with
  | case1 unvisited => exact .nil
  | case2 unvisited head rest fresh _ later ends ih =>
      refine List.pairwise_cons.mpr ⟨?_, ih (pairwise_children_append ordered)⟩
      intro id member
      obtain ⟨_, start, pended, path⟩ := mem_walk_iff.mp member
      rw [children_of_isTerminating ends, List.nil_append] at pended
      exact ((List.pairwise_cons.mp ordered).1 start pended).below_right path.toBelow
  | case3 unvisited head rest fresh _ later notEnd ih =>
      exact ih (pairwise_children_append ordered)
  | case4 unvisited head rest visited _ ih => exact ih (List.pairwise_cons.mp ordered).2

/-! ## The walk turn by turn -/

/-- A walk under way, with a flag for each node of the graph. -/
structure Search where
  /-- Whether each node was visited. -/
  visited : Array Bool
  pending : List NodeId
  /-- The ends of paths met so far. -/
  found : List NodeId

namespace Search

/-- The walk before its first turn. -/
def initial (graph : Graph) : Search where
  visited := Array.replicate graph.size false
  pending := [0]
  found := []

/-- Deal with the next pending index, if there is one.  The flag of a node must be there. -/
def turn (graph : Graph) (search : Search) : Option Search :=
  match search.pending with
  | [] => some search
  | id :: rest =>
      match graph.nodes[id]? with
      | none => some { search with pending := rest }
      | some node =>
          match search.visited[id]? with
          | none => none
          | some true => some { search with pending := rest }
          | some false =>
              some {
                visited := search.visited.setIfInBounds id true
                pending := node.children ++ rest
                found :=
                  if node.isTerminating then search.found ++ [id] else search.found }

/-- Take a number of turns. -/
def turns (graph : Graph) : Nat → Search → Option Search
  | 0, search => some search
  | count + 1, search => (search.turn graph).bind (turns graph count)

/-- The flags tell which nodes are unvisited. -/
structure Flags (graph : Graph) (search : Search) (unvisited : List NodeId) : Prop where
  size : search.visited.size = graph.size
  unvisited : ∀ id, search.visited[id]? = some false ↔ id ∈ unvisited

variable {search : Search}

theorem flags_initial (graph : Graph) : (initial graph).Flags graph (List.range graph.size) where
  size := Array.size_replicate
  unvisited id := by
    simp [initial, Array.getElem?_replicate]

theorem Flags.visit (flags : search.Flags graph unvisited) (unique : unvisited.Nodup)
    (pending found : List NodeId) (id : NodeId) :
    Flags graph { visited := search.visited.setIfInBounds id true, pending, found }
      (unvisited.erase id) where
  size := (Array.size_setIfInBounds ..).trans flags.size
  unvisited other := by
    rw [Array.getElem?_setIfInBounds, unique.mem_erase_iff, ← flags.unvisited]
    by_cases same : id = other
    · subst same
      simp
    · simp [same, Ne.symm same]

/-- An index that is not unvisited is passed over. -/
theorem turn_of_not_mem (flags : search.Flags graph unvisited) {rest : List NodeId}
    (pended : search.pending = id :: rest) (visited : id ∉ unvisited) :
    search.turn graph = some { search with pending := rest } := by
  simp only [turn, pended]
  cases found : graph.nodes[id]? with
  | none => rfl
  | some node =>
      obtain ⟨present, _⟩ := Array.getElem?_eq_some_iff.mp found
      have flagged : id < search.visited.size := Nat.lt_of_lt_of_eq present flags.size.symm
      cases flag : search.visited[id] with
      | true => simp only [Array.getElem?_eq_getElem flagged, flag]
      | false =>
          have unvisited := (flags.unvisited id).mp (Array.getElem?_eq_some_iff.mpr ⟨flagged, flag⟩)
          exact absurd unvisited visited

/-- An unvisited node is visited, and its children come next. -/
theorem turn_of_mem (flags : search.Flags graph unvisited) {rest : List NodeId}
    (pended : search.pending = id :: rest) (fresh : id ∈ unvisited) :
    search.turn graph = some {
      visited := search.visited.setIfInBounds id true
      pending := graph.children id ++ rest
      found := if graph.isTerminating id then search.found ++ [id] else search.found } := by
  have flag := (flags.unvisited id).mpr fresh
  obtain ⟨flagged, _⟩ := Array.getElem?_eq_some_iff.mp flag
  have present : id < graph.nodes.size := Nat.lt_of_lt_of_eq flagged flags.size
  simp only [turn, pended, Array.getElem?_eq_getElem present, flag, children, isTerminating,
    Option.any_some]

/-- Once nothing is pending, turns change nothing. -/
theorem turns_of_done (done : search.pending = []) (count : Nat) :
    search.turns graph count = some search := by
  induction count with
  | zero => rfl
  | succ count ih =>
      have idle : search.turn graph = some search := by simp only [turn, done]
      rw [turns, idle]
      exact ih

/-- Where a step is taken, enough turns are one turn and enough for what is left. -/
theorem exists_succ_of_lt {less steps count : Nat} (shorter : less < steps)
    (enough : steps ≤ count) : ∃ fewer, count = fewer + 1 ∧ less ≤ fewer :=
  ⟨count - 1, by omega, by omega⟩

/-- As many turns as a walk has steps bring it to its end, with what it lists added to the
ends that were met before. -/
theorem exists_turns_eq (flags : search.Flags graph unvisited) (unique : unvisited.Nodup)
    (pended : search.pending = pending) {count : Nat}
    (enough : graph.stepsLeft unvisited pending ≤ count) :
    ∃ visited, search.turns graph count = some
      { visited, pending := [], found := search.found ++ graph.walk unvisited pending } := by
  fun_induction graph.walk unvisited pending generalizing search count with
  | case1 unvisited =>
      refine ⟨search.visited, ?_⟩
      rw [turns_of_done pended, List.append_nil, ← pended]
  | case2 unvisited head rest fresh shorter later ends =>
      rename_i ih
      obtain ⟨fewer, rfl, stillEnough⟩ := exists_succ_of_lt shorter enough
      obtain ⟨visited, reached⟩ := ih
        (flags.visit unique (graph.children head ++ rest) (search.found ++ [head]) head)
        (unique.erase head) rfl stillEnough
      refine ⟨visited, ?_⟩
      rw [turns, turn_of_mem flags pended fresh, if_pos ends, Option.bind_some, reached,
        List.append_assoc]
      rfl
  | case3 unvisited head rest fresh shorter later notEnd =>
      rename_i ih
      obtain ⟨fewer, rfl, stillEnough⟩ := exists_succ_of_lt shorter enough
      obtain ⟨visited, reached⟩ := ih
        (flags.visit unique (graph.children head ++ rest) search.found head)
        (unique.erase head) rfl stillEnough
      refine ⟨visited, ?_⟩
      rw [turns, turn_of_mem flags pended fresh, if_neg notEnd, Option.bind_some, reached]
  | case4 unvisited head rest visited shorter ih =>
      obtain ⟨fewer, rfl, stillEnough⟩ := exists_succ_of_lt shorter enough
      have passed : Flags graph { search with pending := rest } unvisited :=
        ⟨flags.size, flags.unvisited⟩
      obtain ⟨last, reached⟩ := ih passed unique rfl stillEnough
      refine ⟨last, ?_⟩
      rw [turns, turn_of_not_mem flags pended visited, Option.bind_some, reached]

end Search

end Callsite.Graph
