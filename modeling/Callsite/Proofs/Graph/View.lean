import Callsite.Graph.Consensus

/-!
# What a caller sees of a graph

A path may end on a heap of its own, but the number of that heap is not looked at when the
paths of a graph are merged.  So graphs that differ in nothing but the numbers of heaps mean
the same to a caller.
-/

namespace Callsite

/-- The node without the number of its heap. -/
def Node.withoutHeap (node : Node) : Node :=
  { node with activation := { node.activation with heap := 0 } }

namespace Graph

/-- The graph without the numbers of the heaps that its nodes are on. -/
def withoutHeaps (graph : Graph) : Graph :=
  { graph with nodes := graph.nodes.map Node.withoutHeap }

variable (graph : Graph)

theorem getElem?_withoutHeaps (id : NodeId) :
    graph.withoutHeaps.nodes[id]? = graph.nodes[id]?.map Node.withoutHeap :=
  Array.getElem?_map

@[simp] theorem children_withoutHeaps (id : NodeId) :
    graph.withoutHeaps.children id = graph.children id := by
  rw [children, children, getElem?_withoutHeaps]
  cases graph.nodes[id]? with
  | none => rfl
  | some node => rfl

@[simp] theorem isTerminating_withoutHeaps (id : NodeId) :
    graph.withoutHeaps.isTerminating id = graph.isTerminating id := by
  rw [isTerminating, isTerminating, getElem?_withoutHeaps]
  cases graph.nodes[id]? with
  | none => rfl
  | some node => rfl

/-- A walk looks at the children and the exceptions of nodes only. -/
theorem walk_withoutHeaps (unvisited pending : List NodeId) :
    graph.withoutHeaps.walk unvisited pending = graph.walk unvisited pending := by
  fun_induction graph.walk unvisited pending with
  | case1 => rw [walk]
  | case2 unvisited id rest fresh _ later ends ih =>
      rw [walk]
      simp [fresh, ends, ih, later]
  | case3 unvisited id rest fresh _ later ends ih =>
      rw [walk]
      simp [fresh, ends, ih, later]
  | case4 unvisited id rest visited _ ih =>
      rw [walk]
      simp [visited, ih]

@[simp] theorem observed_withoutHeaps (register : Register) :
    graph.withoutHeaps.observed register = graph.observed register := by
  have sameIds : graph.withoutHeaps.terminatingIds = graph.terminatingIds := by
    rw [terminatingIds, walk_withoutHeaps]
    simp only [size, withoutHeaps, Array.size_map]
    rfl
  rw [observed, observed, terminating, terminating, sameIds, List.filterMap_filterMap,
    List.filterMap_filterMap]
  congr 1
  funext id
  rw [getElem?_withoutHeaps]
  cases graph.nodes[id]? with
  | none => rfl
  | some node => rfl

/-- What paths agree on does not depend on the heaps that they end on. -/
@[simp] theorem settle_withoutHeaps {σ : Type} (register : Register) :
    (graph.withoutHeaps.settle register : AnalysisM σ TypedValue) = graph.settle register := by
  have sameConsensus (catalog : Catalog) :
      graph.withoutHeaps.consensus catalog register = graph.consensus catalog register := by
    rw [consensus, consensus, observed_withoutHeaps]
    rfl
  simp only [settle, sameConsensus]
  rfl

@[simp] theorem sideEffect_withoutHeaps :
    graph.withoutHeaps.sideEffect = graph.sideEffect := by
  rw [sideEffect, sideEffect, withoutHeaps, Array.toList_map, List.map_map]
  rfl

end Graph

end Callsite
