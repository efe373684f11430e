import Callsite.Graph.Consensus

/-!
# What a consensus rests on

The ends of paths are nodes of the graph, and what is assumed of a register after a
method returns either is unknown or was held at an end of a path.  Ends at which the register
was never written have no say in it, so what is assumed of the register need not be held
there (`Graph.consensus_held_iff`).
-/

namespace Callsite.Graph

variable {graph : Graph} {catalog : Catalog} {register : Register} {item : TypedValue}
  {node : Node}

theorem mem_nodes_of_mem_terminating (member : node ∈ graph.terminating) :
    node ∈ graph.nodes := by
  obtain ⟨id, _, found⟩ := List.mem_filterMap.mp member
  exact Array.mem_of_getElem? found

theorem isTerminating_of_mem_terminating (member : node ∈ graph.terminating) :
    node.isTerminating = true := by
  obtain ⟨id, listed, found⟩ := List.mem_filterMap.mp member
  have ends := graph.isTerminating_of_mem_walk listed
  rwa [isTerminating, found, Option.any_some] at ends

theorem mem_observed :
    item ∈ graph.observed register ↔
      ∃ node ∈ graph.terminating, node.frame.get? register = some item :=
  List.mem_filterMap

/-- What is assumed of a register is unknown, or all ends that hold anything hold
it. -/
theorem consensusItem_cases (graph : Graph) (catalog : Catalog) (register : Register) :
    (∃ type, graph.consensusItem catalog register = TypedValue.unknown type) ∨
      graph.observed register ≠ [] ∧ ∀ seen ∈ graph.observed register,
        seen = graph.consensusItem catalog register := by
  cases agreement : graph.consensus catalog register with
  | unwritten declared =>
      left
      exact ⟨declared, by rw [consensusItem, agreement, Consensus.item]⟩
  | widened paths type =>
      left
      exact ⟨type, by rw [consensusItem, agreement, Consensus.item]⟩
  | agreed item =>
      right
      rw [consensusItem, agreement, Consensus.item]
      exact graph.consensus_eq_agreed_iff.mp agreement

/-- A known item that is assumed of a register was seen at an end of a path, and nothing else
was seen at any. -/
theorem observed_of_known
    (known : (graph.consensusItem catalog register).isUnknown = false) :
    graph.observed register ≠ [] ∧
      ∀ seen ∈ graph.observed register, seen = graph.consensusItem catalog register := by
  rcases graph.consensusItem_cases catalog register with ⟨type, isUnknown⟩ | agree
  · rw [isUnknown] at known
    cases known
  · exact agree

/-- A known item that is assumed of a register is held there at an end of a path. -/
theorem exists_terminating_of_known
    (known : (graph.consensusItem catalog register).isUnknown = false) :
    ∃ node ∈ graph.terminating,
      node.frame.get? register = some (graph.consensusItem catalog register) := by
  obtain ⟨any, agree⟩ := observed_of_known known
  obtain ⟨seen, member⟩ := List.exists_mem_of_ne_nil _ any
  have same := agree seen member
  subst same
  exact mem_observed.mp member

/-- A reference that is assumed of a register is held there at an end of a path. -/
theorem exists_terminating_of_handle?_consensusItem {handle : Handle}
    (refers : (graph.consensusItem catalog register).handle? = some handle) :
    ∃ node ∈ graph.terminating,
      node.frame.get? register = some (graph.consensusItem catalog register) := by
  refine exists_terminating_of_known ?_
  rw [TypedValue.isUnknown, Value.handle?_eq_some.mp refers]
  rfl

/-- A known item that is assumed of a register is held at every end of a path that wrote the
register, of which there are some, and so it is held at all ends exactly if all of them wrote
the register. -/
theorem consensus_held_iff (graph : Graph) (catalog : Catalog) (register : Register)
    (known : (graph.consensusItem catalog register).isUnknown = false) :
    let item := graph.consensusItem catalog register
    (∃ node ∈ graph.terminating, node.frame.get? register = some item) ∧
      (∀ node ∈ graph.terminating, ∀ seen, node.frame.get? register = some seen →
        seen = item) ∧
      ((∀ node ∈ graph.terminating, node.frame.peek register = item) ↔
        ∀ node ∈ graph.terminating, node.frame.get? register ≠ none) := by
  intro item
  obtain ⟨_, agree⟩ := observed_of_known known
  have written (node : Node) (member : node ∈ graph.terminating) (seen : TypedValue)
      (holds : node.frame.get? register = some seen) : seen = item :=
    agree seen (mem_observed.mpr ⟨node, member, holds⟩)
  refine ⟨exists_terminating_of_known known, written, ?_, ?_⟩
  · intro held node member unwritten
    -- What was never written reads as unknown.
    have reads : node.frame.peek register = TypedValue.unknown TypeName.object := by
      rw [Frame.peek, unwritten, Option.getD_none]
    have isUnknown : item.isUnknown = true := by
      rw [← held node member, reads]
      rfl
    rw [known] at isUnknown
    cases isUnknown
  · intro wrote node member
    obtain ⟨seen, holds⟩ := Option.ne_none_iff_exists'.mp (wrote node member)
    rw [Frame.peek, holds, Option.getD_some]
    exact written node member seen holds

/-- A method that returns a number. -/
def returningInt : Method where
  signature := "Lapp/A;->f()I"
  className := "Lapp/A;"
  name := "f"
  descriptor := "f()I"
  declaredTypes := []
  returnType := "I"
  flags := AccessFlags.isStatic
  body := some 2

/-- A graph of two paths, one of which has written what it returns. -/
def oneReturned : Graph where
  method := returningInt
  nodes :=
    let blank : Activation :=
      { method := returningInt, frame := Frame.forMethod returningInt, heap := 0 }
    let wrote := blank.withFrame (blank.frame.poke .returned ⟨.int 1, TypeName.int⟩)
    #[{ address := 0, activation := blank, children := [1, 2] },
      { address := 1, activation := wrote },
      { address := 2, activation := blank }]

theorem consensus_held_iff_oneReturned :
    let item := oneReturned.consensusItem {} .returned
    item.isUnknown = false ∧
      (∃ node ∈ oneReturned.terminating, node.frame.get? .returned = some item) ∧
      (∀ node ∈ oneReturned.terminating, ∀ seen, node.frame.get? .returned = some seen →
        seen = item) ∧
      ((∀ node ∈ oneReturned.terminating, node.frame.peek .returned = item) ↔
        ∀ node ∈ oneReturned.terminating, node.frame.get? .returned ≠ none) := by
  intro item
  have known : item.isUnknown = false := by decide +kernel
  exact ⟨known, consensus_held_iff oneReturned {} .returned known⟩

/-- What is assumed of a register is not held at every end of a path. -/
theorem consensus_not_held_oneReturned :
    ¬ ∀ (graph : Graph) (catalog : Catalog) (register : Register),
      (graph.consensusItem catalog register).isUnknown = false →
        ∀ node ∈ graph.terminating,
          node.frame.peek register = graph.consensusItem catalog register := by
  intro held
  have known : (oneReturned.consensusItem {} .returned).isUnknown = false := by
    decide +kernel
  have everywhere := held oneReturned {} .returned known
  have somewhere : ¬ ∀ node ∈ oneReturned.terminating,
      node.frame.peek .returned = oneReturned.consensusItem {} .returned := by
    decide +kernel
  exact somewhere everywhere

end Callsite.Graph
