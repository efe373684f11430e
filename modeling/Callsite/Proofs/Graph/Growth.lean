import Callsite.Proofs.Graph.Walk

/-!
# Graphs that grow from single nodes

A graph that is built by adding nodes without children, by dropping the children of nodes
and by changing exceptions is a forest: every node but the first has at most one parent,
which was there before it.  In a forest a node cannot lie both left and right of another, so
the ends of its paths are listed in the one order in which they stand.
-/

namespace Callsite.Graph

open Relation

/-- Graphs that are built from nodes without children. -/
inductive Grown : Graph → Prop where
  | single (method : Method) (root : Node) :
      root.children = [] → Grown (single method root)
  | addChild {graph grown : Graph} {id : NodeId} (parent : NodeId) (node : Node) :
      Grown graph → node.children = [] → graph.addChild parent node = some (id, grown) →
      Grown grown
  | clearChildren {graph : Graph} (id : NodeId) :
      Grown graph → Grown (graph.modify id fun node => { node with children := [] })
  | setExceptions {graph : Graph} (id : NodeId) (exceptions : List Exception) :
      Grown graph → Grown (graph.modify id fun node => { node with exceptions })

/-- Children come after their parent, in the order in which they were added, and no node has
two parents. -/
structure Forest (graph : Graph) : Prop where
  later : ∀ parent child, graph.HasChild parent child → parent < child
  present : ∀ parent child, graph.HasChild parent child → child < graph.size
  ordered : ∀ parent, (graph.children parent).Pairwise (· < ·)
  parent_unique : ∀ child left right, graph.HasChild left child → graph.HasChild right child →
    left = right

variable {graph : Graph} {left right top bottom : NodeId}

/-! ## Growing keeps a forest -/

theorem getElem?_modify (graph : Graph) (id other : NodeId) (change : Node → Node) :
    (graph.modify id change).nodes[other]? =
      if id = other then graph.nodes[other]?.map change else graph.nodes[other]? := by
  rw [modify]
  cases found : graph.nodes[id]? with
  | none =>
      by_cases same : id = other
      · subst same
        simp [found]
      · simp [same]
  | some node =>
      obtain ⟨present, here⟩ := Array.getElem?_eq_some_iff.mp found
      by_cases same : id = other
      · subst same
        simp [present, here]
      · simp [same]

theorem children_modify (graph : Graph) (id other : NodeId) (change : Node → Node) :
    (graph.modify id change).children other =
      match graph.nodes[other]? with
      | some node => if id = other then (change node).children else node.children
      | none => [] := by
  rw [children, getElem?_modify]
  cases graph.nodes[other]? with
  | none => simp
  | some node => by_cases same : id = other <;> simp [same]

/-- A change that keeps or drops the children of a node keeps or drops them in the graph. -/
theorem children_modify_sublist {id : NodeId} {change : Node → Node}
    (fewer : ∀ node, (change node).children.Sublist node.children) (other : NodeId) :
    ((graph.modify id change).children other).Sublist (graph.children other) := by
  rw [children_modify, children]
  cases graph.nodes[other]? with
  | none => exact List.Sublist.refl []
  | some node =>
      by_cases same : id = other
      · simpa only [same, if_true] using fewer node
      · simp only [same, if_false, List.Sublist.refl]

/-- A child that is added comes last among those of its parent and has none itself. -/
theorem children_addChild {grown : Graph} {parent id : NodeId} {node : Node}
    (childless : node.children = []) (added : graph.addChild parent node = some (id, grown))
    (other : NodeId) :
    grown.children other =
      if parent = other then graph.children other ++ [graph.size]
      else graph.children other := by
  obtain ⟨present, _, _⟩ := graph.addChild_eq_some added
  rw [addChild, if_pos present] at added
  cases added
  rw [children_modify, children, Array.getElem?_push]
  by_cases new : other = graph.nodes.size
  · subst new
    have notParent : parent ≠ graph.nodes.size := Nat.ne_of_lt present
    simp [notParent, childless]
  · rw [if_neg new]
    cases found : graph.nodes[other]? with
    | some node => rfl
    | none =>
        have notParent : parent ≠ other := by
          rintro rfl
          exact absurd (Array.getElem?_eq_none_iff.mp found) (Nat.not_le.mpr present)
        simp [notParent]

namespace Forest

theorem single (method : Method) {root : Node} (childless : root.children = []) :
    (Graph.single method root).Forest := by
  have barren (parent : NodeId) : (Graph.single method root).children parent = [] := by
    rw [children, Graph.single]
    cases parent with
    | zero => exact childless
    | succ parent => rfl
  have none (parent child : NodeId) : ¬ (Graph.single method root).HasChild parent child := by
    rw [HasChild, barren]
    exact List.not_mem_nil
  exact {
    later := fun parent child has => absurd has (none parent child)
    present := fun parent child has => absurd has (none parent child)
    ordered := fun parent => (barren parent).symm ▸ .nil
    parent_unique := fun child left _ has => absurd has (none left child) }

theorem addChild {grown : Graph} {parent id : NodeId} {node : Node} (forest : graph.Forest)
    (childless : node.children = [])
    (added : graph.addChild parent node = some (id, grown)) : grown.Forest := by
  obtain ⟨present, _, larger⟩ := graph.addChild_eq_some added
  have has_iff (above child : NodeId) : grown.HasChild above child ↔
      graph.HasChild above child ∨ above = parent ∧ child = graph.size := by
    rw [HasChild, children_addChild childless added]
    by_cases here : parent = above
    · subst here
      simp [HasChild]
    · simp [HasChild, here, Ne.symm here]
  have old {above : NodeId} (has : graph.HasChild above graph.size) : False :=
    Nat.lt_irrefl graph.size (forest.present above graph.size has)
  constructor
  case later =>
    intro above child has
    rcases (has_iff above child).mp has with before | ⟨rfl, rfl⟩
    · exact forest.later above child before
    · exact present
  case present =>
    intro above child has
    rw [larger]
    rcases (has_iff above child).mp has with before | ⟨rfl, rfl⟩
    · exact Nat.lt_succ_of_lt (forest.present above child before)
    · exact Nat.lt_succ_self graph.size
  case ordered =>
    intro above
    rw [children_addChild childless added]
    split
    · refine List.pairwise_append.mpr
        ⟨forest.ordered above, List.pairwise_singleton _ _, ?_⟩
      intro child has new isNew
      rw [List.mem_singleton.mp isNew]
      exact forest.present above child has
    · exact forest.ordered above
  case parent_unique =>
    intro child left right hasLeft hasRight
    rcases (has_iff left child).mp hasLeft with before | ⟨rfl, rfl⟩
    · rcases (has_iff right child).mp hasRight with alsoBefore | ⟨_, rfl⟩
      · exact forest.parent_unique child left right before alsoBefore
      · exact (old before).elim
    · rcases (has_iff right graph.size).mp hasRight with before | ⟨same, _⟩
      · exact (old before).elim
      · exact same.symm

/-- Without some of its children a forest is a forest. -/
theorem of_sublist {pruned : Graph} (forest : graph.Forest) (sameSize : pruned.size = graph.size)
    (fewer : ∀ parent, (pruned.children parent).Sublist (graph.children parent)) :
    pruned.Forest where
  later parent child has := forest.later parent child ((fewer parent).subset has)
  present parent child has := sameSize ▸ forest.present parent child ((fewer parent).subset has)
  ordered parent := (forest.ordered parent).sublist (fewer parent)
  parent_unique child left right hasLeft hasRight :=
    forest.parent_unique child left right ((fewer left).subset hasLeft)
      ((fewer right).subset hasRight)

end Forest

theorem Grown.forest (grown : graph.Grown) : graph.Forest := by
  induction grown with
  | single method _ childless => exact .single method childless
  | addChild _ _ _ childless added ih => exact ih.addChild childless added
  | clearChildren id _ ih =>
      exact ih.of_sublist (size_modify ..) (children_modify_sublist fun node => List.nil_sublist _)
  | setExceptions id exceptions _ ih =>
      exact ih.of_sublist (size_modify ..)
        (children_modify_sublist fun node => List.Sublist.refl _)

/-! ## Left and right in a forest -/

namespace Forest

variable (forest : graph.Forest)
include forest

theorem le_of_below (below : graph.Below top bottom) : top ≤ bottom := by
  induction below with
  | refl => exact Nat.le_refl top
  | tail _ isChild ih => exact Nat.le_trans ih (Nat.le_of_lt (forest.later _ _ isChild))

/-- A node strictly below another is at or below it through its parent. -/
theorem below_parent {parent : NodeId} (isChild : graph.HasChild parent bottom)
    (below : graph.Below top bottom) (different : top ≠ bottom) : graph.Below top parent := by
  rcases ReflTransGen.cases_tail below with same | ⟨above, reached, has⟩
  · exact absurd same.symm different
  · rw [forest.parent_unique bottom parent above isChild has]
    exact reached

/-- Of two nodes above a third one is above the other. -/
theorem below_total (fromLeft : graph.Below left bottom) (fromRight : graph.Below right bottom) :
    graph.Below left right ∨ graph.Below right left := by
  induction fromLeft with
  | refl => exact .inr fromRight
  | @tail parent bottom reached isChild ih =>
      by_cases same : right = bottom
      · subst same
        exact .inl (.tail reached isChild)
      · exact ih (forest.below_parent isChild fromRight same)

/-- Nothing lies below two children of a node. -/
theorem eq_of_below {parent : NodeId} (isLeft : graph.HasChild parent left)
    (isRight : graph.HasChild parent right) (belowLeft : graph.Below left bottom)
    (belowRight : graph.Below right bottom) : left = right := by
  -- A child that lay below its sibling would have its parent below the parent's own child.
  have apart {upper lower : NodeId} (isUpper : graph.HasChild parent upper)
      (isLower : graph.HasChild parent lower) (below : graph.Below upper lower) :
      upper = lower := by
    by_cases same : upper = lower
    · exact same
    · have above := forest.le_of_below (forest.below_parent isLower below same)
      exact absurd (forest.later parent upper isUpper) (Nat.not_lt.mpr above)
  rcases forest.below_total belowLeft belowRight with below | below
  · exact apart isLeft isRight below
  · exact (apart isRight isLeft below).symm

theorem lt_of_siblings {parent : NodeId}
    (siblings : [left, right].Sublist (graph.children parent)) : left < right :=
  List.pairwise_iff_forall_sublist.mp (forest.ordered parent) siblings

/-- What lies left of a node does not lie right of it. -/
theorem not_leftOf (apart : graph.LeftOf left right) : ¬ graph.LeftOf right left := by
  rintro ⟨otherParent, third, fourth, others, aboveRight, aboveLeft⟩
  obtain ⟨parent, first, second, siblings, firstAbove, secondAbove⟩ := apart
  have isFirst : graph.HasChild parent first := siblings.subset (by simp)
  have isSecond : graph.HasChild parent second := siblings.subset (by simp)
  have isThird : graph.HasChild otherParent third := others.subset (by simp)
  have isFourth : graph.HasChild otherParent fourth := others.subset (by simp)
  have before := forest.lt_of_siblings siblings
  have otherBefore := forest.lt_of_siblings others
  by_cases same : first = fourth
  · -- The two nodes part at one place, so the siblings are the same.
    subst same
    have oneParent := forest.parent_unique first parent otherParent isFirst isFourth
    subst oneParent
    have twice := forest.eq_of_below isSecond isThird secondAbove aboveRight
    subst twice
    exact Nat.lt_asymm before otherBefore
  · rcases forest.below_total firstAbove aboveLeft with lower | higher
    · have reached := forest.below_parent isFourth lower same
      have under := (reached.tail isThird).trans aboveRight
      have twice := forest.eq_of_below isFirst isSecond under secondAbove
      exact Nat.ne_of_lt before twice
    · have reached := forest.below_parent isFirst higher (Ne.symm same)
      have under := (reached.tail isSecond).trans secondAbove
      have twice := forest.eq_of_below isThird isFourth aboveRight under
      exact Nat.ne_of_lt otherBefore twice

end Forest

/-! ## The ends of paths -/

theorem mem_terminatingIds_iff {id : NodeId} :
    id ∈ graph.terminatingIds ↔ graph.Reachable id ∧ graph.isTerminating id = true := by
  rw [terminatingIds, mem_walk_iff]
  constructor
  · rintro ⟨ends, start, first, path⟩
    rw [List.mem_singleton.mp first] at path
    exact ⟨path.toBelow, ends⟩
  · rintro ⟨reachable, ends⟩
    obtain ⟨node, found, _, _⟩ := isTerminating_iff_exists.mp ends
    obtain ⟨present, _⟩ := Array.getElem?_eq_some_iff.mp found
    exact ⟨ends, 0, List.mem_singleton_self 0, through_range_iff.mpr ⟨present, reachable⟩⟩

/-- Every index that is listed has a node. -/
theorem map_some_terminating (graph : Graph) :
    graph.terminating.map some = graph.terminatingIds.map fun id => graph.nodes[id]? := by
  have present (id : NodeId) (listed : id ∈ graph.terminatingIds) :
      ∃ node, graph.nodes[id]? = some node := by
    obtain ⟨node, found, _⟩ := isTerminating_iff_exists.mp (mem_terminatingIds_iff.mp listed).2
    exact ⟨node, found⟩
  rw [terminating]
  generalize graph.terminatingIds = ids at present
  induction ids with
  | nil => rfl
  | cons id rest ih =>
      obtain ⟨node, found⟩ := present id List.mem_cons_self
      rw [List.filterMap_cons_some found, List.map_cons, List.map_cons, found,
        ih fun other later => present other (List.mem_cons_of_mem id later)]

/-- On every graph, whatever its children are, a walk ends after a number of turns that is
known in advance, asks for no flag that is not there, and lists each node once that can be
reached, has no children and raised no exception, and no others.  A graph that has grown from
nodes without children is a forest, and the ends of its paths are listed from left to right. -/
theorem terminating_exact (graph : Graph) :
    (∃ visited, (Search.initial graph).turns graph
        (graph.stepsLeft (List.range graph.size) [0]) =
      some { visited, pending := [], found := graph.terminatingIds }) ∧
    graph.terminating.map some = (graph.terminatingIds.map fun id => graph.nodes[id]?) ∧
    graph.terminatingIds.Nodup ∧
    (∀ id, id ∈ graph.terminatingIds ↔ graph.Reachable id ∧
      ∃ node, graph.nodes[id]? = some node ∧ node.children = [] ∧ node.exceptions = []) ∧
    (graph.Grown →
      (∀ parent, (graph.children parent).Nodup) ∧
      (∀ parent child, child ∈ graph.children parent → parent < child ∧
        ∀ other, child ∈ graph.children other → other = parent) ∧
      graph.terminatingIds.Pairwise fun left right =>
        graph.LeftOf left right ∧ ¬ graph.LeftOf right left) := by
  have unique : (List.range graph.size).Nodup := List.nodup_range
  refine ⟨?_, graph.map_some_terminating, nodup_walk unique, ?_, ?_⟩
  · exact Search.exists_turns_eq (Search.flags_initial graph) unique rfl (Nat.le_refl _)
  · intro id
    rw [mem_terminatingIds_iff, isTerminating_iff_exists]
  · intro grown
    have forest := grown.forest
    refine ⟨?_, ?_, ?_⟩
    · intro parent
      exact (forest.ordered parent).imp Nat.ne_of_lt
    · intro parent child has
      refine ⟨forest.later parent child has, ?_⟩
      intro other alsoHas
      exact forest.parent_unique child other parent alsoHas has
    · have ordered : graph.terminatingIds.Pairwise graph.LeftOf :=
        pairwise_walk (List.pairwise_singleton _ _)
      exact ordered.imp fun apart => ⟨apart, forest.not_leftOf apart⟩

/-- A node at an address, without children. -/
def leaf (address : Nat) : Node where
  address
  activation :=
    { method :=
        { signature := "Lapp/A;->f()V"
          className := "Lapp/A;"
          name := "f"
          descriptor := "f()V"
          declaredTypes := []
          returnType := TypeName.void
          flags := AccessFlags.isStatic }
      frame := {}
      heap := 0 }

/-- A graph whose first path raises, so that two of its three paths return. -/
def branching : Graph where
  method := (leaf 0).activation.method
  nodes :=
    #[{ leaf 0 with children := [1, 2] },
      { leaf 1 with children := [3, 4] },
      leaf 2,
      { leaf 3 with exceptions := [{ className := "Lapp/Failure;" }] },
      leaf 4]

theorem grown_branching : branching.Grown := by
  have root := Grown.single (leaf 0).activation.method (leaf 0) rfl
  have first := root.addChild 0 (leaf 1) rfl rfl
  have second := first.addChild 0 (leaf 2) rfl rfl
  have third := second.addChild 1 (leaf 3) rfl rfl
  have fourth := third.addChild 1 (leaf 4) rfl rfl
  exact fourth.setExceptions 3 [{ className := "Lapp/Failure;" }]

theorem terminating_exact_branching :
    branching.terminatingIds = [4, 2] ∧ branching.Grown ∧
      (∀ parent, (branching.children parent).Nodup) ∧
      (∀ parent child, child ∈ branching.children parent → parent < child ∧
        ∀ other, child ∈ branching.children other → other = parent) ∧
      branching.terminatingIds.Pairwise fun left right =>
        branching.LeftOf left right ∧ ¬ branching.LeftOf right left :=
  ⟨by decide +kernel, grown_branching,
    (terminating_exact branching).2.2.2.2 grown_branching⟩

end Callsite.Graph
