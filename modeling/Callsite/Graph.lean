import Callsite.Activation
import Callsite.Exception
import Callsite.SideEffect

/-!
# Path graphs

The paths that were found through a method form a graph.  A node is one
instruction on one path, with the activation as it is after the instruction; the
first node is where the method starts.  A path ends at a node without children
and returns to the caller unless an exception was raised there.  `terminating`
finds the ends of the paths that return; it may be asked of any graph, also one
whose children form cycles or do not exist.
-/

namespace Callsite

-- Sums start from the zero of the core library, also where another library adds its own.
attribute [local instance (high)] Zero.ofOfNat0

/-- The index of a node in its graph. -/
abbrev NodeId := Nat

/-- One executed instruction on one path. -/
structure Node where
  address : Nat
  activation : Activation
  children : List NodeId := []
  exceptions : List Exception := []
  sideEffect : SideEffect := .nothing
  deriving DecidableEq

namespace Node

variable (node : Node)

/-- The register file after the instruction. -/
def frame : Frame := node.activation.frame

/-- The node with another register file. -/
def withFrame (frame : Frame) : Node :=
  { node with activation := node.activation.withFrame frame }

/-- The node whose path ends with exceptions. -/
def raise (exceptions : List Exception) : Node :=
  { node with children := [], exceptions }

/-- Whether the node is the end of a path that returns. -/
def isTerminating : Bool := node.children.isEmpty && node.exceptions.isEmpty

@[simp] theorem frame_withFrame (frame : Frame) :
    (node.withFrame frame).frame = frame := rfl

@[simp] theorem isTerminating_iff :
    node.isTerminating = true ↔ node.children = [] ∧ node.exceptions = [] := by
  simp [isTerminating]

end Node

/-- The paths through a method. -/
structure Graph where
  method : Method
  nodes : Array Node
  deriving DecidableEq

namespace Graph

/-- The graph of a path that consists of one node. -/
def single (method : Method) (root : Node) : Graph :=
  { method, nodes := #[root] }

variable (graph : Graph)

/-- The number of nodes, unreachable ones included. -/
def size : Nat := graph.nodes.size

/-- The children of a node, none if the node does not exist. -/
def children (id : NodeId) : List NodeId :=
  match graph.nodes[id]? with
  | some node => node.children
  | none => []

/-- Whether a node exists and is the end of a path that returns. -/
def isTerminating (id : NodeId) : Bool :=
  (graph.nodes[id]?).any Node.isTerminating

/-- Change a node, if there is one of that index. -/
def modify (id : NodeId) (change : Node → Node) : Graph :=
  match graph.nodes[id]? with
  | some node => { graph with nodes := graph.nodes.setIfInBounds id (change node) }
  | none => graph

/-- Add a node as the last child of another, which must exist. -/
def addChild (parent : NodeId) (node : Node) : Option (NodeId × Graph) :=
  if parent < graph.size then
    some (graph.size,
      { graph with nodes := graph.nodes.push node }.modify parent fun existing =>
        { existing with children := existing.children ++ [graph.size] })
  else
    none

/-- The steps that a walk has before it: one for each pending index, and for each
unvisited node one and one for each of its children. -/
def stepsLeft (unvisited pending : List NodeId) : Nat :=
  (unvisited.map fun id => (graph.children id).length + 1).sum + pending.length

/-- Visiting a node uses up more steps than its children add. -/
theorem stepsLeft_erase_lt {unvisited : List NodeId} {id : NodeId}
    (fresh : id ∈ unvisited) (rest : List NodeId) :
    graph.stepsLeft (unvisited.erase id) (graph.children id ++ rest) <
      graph.stepsLeft unvisited (id :: rest) := by
  have sums := ((List.perm_cons_erase fresh).map
    fun id => (graph.children id).length + 1).sum_nat
  simp only [stepsLeft, sums, List.map_cons, List.sum_cons, List.length_append,
    List.length_cons]
  omega

/-- Passing over an index uses up a step. -/
theorem stepsLeft_lt_cons (unvisited rest : List NodeId) (id : NodeId) :
    graph.stepsLeft unvisited rest < graph.stepsLeft unvisited (id :: rest) := by
  simp [stepsLeft]

/-- Visit the nodes that are pending, depth first, and list the ends of paths
that return.  A node is pursued once, when it is first met, and an index without
a node is never among the unvisited ones. -/
def walk (unvisited pending : List NodeId) : List NodeId :=
  match pending with
  | [] => []
  | id :: rest =>
      if fresh : id ∈ unvisited then
        have := graph.stepsLeft_erase_lt fresh rest
        let later := walk (unvisited.erase id) (graph.children id ++ rest)
        if graph.isTerminating id then id :: later else later
      else
        have := graph.stepsLeft_lt_cons unvisited rest id
        walk unvisited rest
termination_by graph.stepsLeft unvisited pending

/-- The indices of the ends of the paths that return, in the order of a walk
through the graph that takes the children of a node from first to last. -/
def terminatingIds : List NodeId :=
  graph.walk (List.range graph.size) [0]

/-- The ends of the paths that return. -/
def terminating : List Node :=
  graph.terminatingIds.filterMap fun id => graph.nodes[id]?

/-- The strongest side effect of any node, reachable or not. -/
def sideEffect : SideEffect :=
  SideEffect.strongest (graph.nodes.toList.map Node.sideEffect)

@[simp] theorem size_single (method : Method) (root : Node) :
    (single method root).size = 1 := rfl

@[simp] theorem size_modify (id : NodeId) (change : Node → Node) :
    (graph.modify id change).size = graph.size := by
  rw [modify]
  split <;> simp [size]

theorem addChild_eq_some {parent id : NodeId} {node : Node} {grown : Graph}
    (added : graph.addChild parent node = some (id, grown)) :
    parent < graph.size ∧ id = graph.size ∧ grown.size = graph.size + 1 := by
  unfold addChild at added
  split at added
  · next present =>
      cases added
      refine ⟨present, rfl, ?_⟩
      rw [size_modify]
      simp [size]
  · cases added

/-- What a walk lists are ends of paths that return. -/
theorem isTerminating_of_mem_walk {unvisited pending : List NodeId} {id : NodeId}
    (member : id ∈ graph.walk unvisited pending) : graph.isTerminating id = true := by
  fun_induction graph.walk unvisited pending with
  | case1 => cases member
  | case2 unvisited head rest fresh _ later ends ih =>
      rcases List.mem_cons.mp member with rfl | member
      · exact ends
      · exact ih member
  | case3 unvisited head rest fresh _ later ends ih => exact ih member
  | case4 unvisited head rest visited _ ih => exact ih member

end Graph

end Callsite
