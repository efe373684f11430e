import Callsite.Proofs.Invoke.Closed

/-!
# Sessions

A session executes call sites one after another, each against one of several nodes.
If the nodes share a sound heap and are closed in it, they still are after any number
of calls on a tidy machine, and the heap has only been edited.
-/

namespace Callsite

variable {σ : Type}

/-- Execute call sites one after another, each against the node at an index, whose
place the resulting node takes.  A site without a node is passed over. -/
def Machine.session (machine : Machine σ) :
    List (InvokeOp × Nat) → List Node → AnalysisM σ (List Invocation × List Node)
  | [], nodes => return ([], nodes)
  | (op, index) :: rest, nodes =>
      match nodes[index]? with
      | none => machine.session rest nodes
      | some node => do
          let (invocation, node) ← op.execute machine node
          let (invocations, nodes) ← machine.session rest (nodes.set index node)
          return (invocation :: invocations, nodes)

/-- The nodes share the heap of a number, which is sound, and are closed in it. -/
structure Shared (id : HeapId) (analysis : Analysis σ) (nodes : List Node) : Prop where
  sound : (analysis.heaps.get id).Sound
  heap_eq : ∀ node ∈ nodes, node.activation.heap = id
  closed : ∀ node ∈ nodes, node.frame.ClosedIn (analysis.heaps.get id)

/-- The effects of a call were lost only if it was to construct an object. -/
def Invocation.FaultsOnlyInConstruction (invocation : Invocation) : Prop :=
  ∀ cause, invocation.outcome = .internalFault cause →
    invocation.strategy = .constructObject

variable {machine : Machine σ} {id : HeapId} {before after : Analysis σ} {nodes : List Node}

namespace Shared

/-- A settled node can take the place of any other. -/
theorem set (shared : Shared id before nodes) {node : Node}
    (settled : node.Settled id before after) (index : Nat) :
    Shared id after (nodes.set index node) where
  sound := settled.edits.sound shared.sound
  heap_eq other member := by
    rcases List.mem_or_eq_of_mem_set member with present | rfl
    · exact shared.heap_eq other present
    · exact settled.heap_eq
  closed other member := by
    rcases List.mem_or_eq_of_mem_set member with present | rfl
    · exact (shared.closed other present).edits settled.edits
    · exact settled.closed

end Shared

/-- One call from a closed node. -/
theorem InvokeOp.settled_execute (tidy : machine.Tidy) (op : InvokeOp) {node : Node}
    (sound : (before.heaps.get id).Sound) (heap_eq : node.activation.heap = id)
    (closed : node.frame.ClosedIn (before.heaps.get id)) :
    let run := (op.execute machine node).run before
    run.1.2.Settled id before run.2 ∧ run.1.1.FaultsOnlyInConstruction := by
  intro run
  obtain ⟨alike, returned, route, strategy, node_eq⟩ :=
    op.route_execute machine node before
  generalize ((op.plan machine node.activation).run before).2 = planned at alike route
  generalize reading : node.withFrame (op.planFor machine before node).frame = start at route
  have start_heap : start.activation.heap = id := by
    rw [← reading]
    exact heap_eq
  have start_closed : start.frame.ClosedIn (planned.heaps.get id) := by
    rw [alike.heaps, ← reading]
    intro register item held
    rw [Node.frame_withFrame, get?_frame_planFor] at held
    exact closed register item held
  rw [← alike.heaps] at sound
  obtain ⟨settled, faults⟩ := settled_of_route tidy sound start_heap start_closed route
  constructor
  · have edits := settled.edits
    rw [alike.heaps] at edits
    change Node.Settled ((op.execute machine node).run before).1.2 id before run.2
    rw [node_eq]
    exact ⟨edits, settled.heap_eq, settled.closed⟩
  · intro cause fault
    exact strategy.trans (faults cause fault)

/-- However many calls are made from closed nodes that share a heap, the nodes stay
closed and the heap is only edited. -/
theorem Machine.shared_session (tidy : machine.Tidy) (shared : Shared id before nodes)
    (steps : List (InvokeOp × Nat)) :
    let run := (machine.session steps nodes).run before
    Shared id run.2 run.1.2 ∧ (before.heaps.get id).Edits (run.2.heaps.get id) ∧
      ∀ invocation ∈ run.1.1, invocation.FaultsOnlyInConstruction := by
  induction steps generalizing nodes before with
  | nil =>
      refine ⟨shared, .refl, ?_⟩
      intro invocation impossible
      cases impossible
  | cons step rest ih =>
      obtain ⟨op, index⟩ := step
      cases present : nodes[index]? with
      | none =>
          simp only [session, present]
          exact ih shared
      | some node =>
          have member := List.mem_of_getElem? present
          obtain ⟨settled, faults⟩ := op.settled_execute tidy shared.sound
            (shared.heap_eq node member) (shared.closed node member)
          obtain ⟨still, edits, others⟩ := ih (shared.set settled index)
          simp only [session, present, AnalysisM.run_bind, AnalysisM.run_pure]
          refine ⟨still, settled.edits.trans edits, ?_⟩
          intro invocation listed
          rcases List.mem_cons.mp listed with rfl | later
          · exact faults
          · exact others invocation later

/-- What holds between the start and the end of a session: the nodes that it ends with
are closed in a heap all of whose slots resolve, the heap has not shrunk, nor has it
outgrown its capacity, and only constructions of objects can have failed to reach their
callers. -/
structure Session.Safe (id : HeapId) (before after : Analysis σ)
    (invocations : List Invocation) (nodes : List Node) : Prop where
  shared : Shared id after nodes
  size_le : (before.heaps.get id).size ≤ (after.heaps.get id).size
  capacity_eq : (after.heaps.get id).capacity = (before.heaps.get id).capacity
  size_le_capacity :
    (before.heaps.get id).size ≤ (before.heaps.get id).capacity →
      (after.heaps.get id).size ≤ (before.heaps.get id).capacity
  faults : ∀ invocation ∈ invocations, invocation.FaultsOnlyInConstruction

theorem Machine.safe_session (tidy : machine.Tidy) (shared : Shared id before nodes)
    (steps : List (InvokeOp × Nat)) :
    let run := (machine.session steps nodes).run before
    Session.Safe id before run.2 run.1.1 run.1.2 := by
  intro run
  obtain ⟨stillShared, edits, faults⟩ := machine.shared_session tidy shared steps
  have edits : (before.heaps.get id).Edits (run.2.heaps.get id) := edits
  refine ⟨stillShared, edits.size_le, edits.capacity_eq, ?_, faults⟩
  intro within
  rw [← edits.capacity_eq]
  exact edits.size_le_capacity within

/-- With the collaborators that a machine has from the start and a tidy interpreter,
every session from closed nodes is safe, from its start to any point and from there to
any later point. -/
theorem Machine.session_safe (policy : Policy) (interpreter : Interpreter σ)
    (tidy : interpreter.Tidy) (shared : Shared id before nodes)
    (steps further : List (InvokeOp × Nat)) :
    let machine : Machine σ := { policy, interpreter }
    let middle := (machine.session steps nodes).run before
    let last := (machine.session further middle.1.2).run middle.2
    Session.Safe id before middle.2 middle.1.1 middle.1.2 ∧
      Session.Safe id middle.2 last.2 last.1.1 last.1.2 := by
  intro machine middle last
  have machineTidy := tidy_of_interpreter policy tidy
  have first := machine.safe_session machineTidy shared steps
  exact ⟨first, machine.safe_session machineTidy first.shared further⟩

/-- A call of the root class's constructor on the first register. -/
def InvokeOp.rootConstruction : InvokeOp where
  address := 0
  kind := { family := .direct }
  method :=
    { signature := Signature.objectInit
      className := TypeName.object
      name := "<init>"
      descriptor := "<init>()V"
      declaredTypes := []
      returnType := TypeName.void
      flags := AccessFlags.isConstructor }
  registers := [0]
  length_registers := by decide

namespace Session

/-- A heap with a placeholder for an object of a known class. -/
def waiting : Analysis Unit where
  registry := Registry.empty.register { name := "Lapp/Box;" }
  heaps := HeapStore.empty.set 0 { slots := #[.uninitialized "Lapp/Box;"], capacity := 2 }
  own := ()

/-- A node with the placeholder in two registers. -/
def waitingNode : Node where
  address := 0
  activation :=
    { method := InvokeOp.rootConstruction.method
      frame :=
        ((Frame.blank 2 0).poke (.index 0) (TypedValue.reference 0 "Lapp/Box;")).poke
          (.index 1) (TypedValue.reference 0 "Lapp/Box;")
      heap := 0 }

theorem shared_waiting : Shared 0 waiting [waitingNode] := by
  have there : waiting.heaps.get 0 =
      { slots := #[.uninitialized "Lapp/Box;"], capacity := 2 } :=
    HeapStore.empty.get_set_self 0 _
  have resolves : (waiting.heaps.get 0).Resolves 0 := by
    rw [there]
    exact ⟨0, rfl⟩
  refine ⟨?_, ?_, ?_⟩
  · intro handle inside
    rw [there] at inside
    have first : handle = 0 := Nat.lt_one_iff.mp inside
    rw [first]
    exact resolves
  · intro other member
    rw [List.mem_singleton.mp member]
    rfl
  · intro other member
    rw [List.mem_singleton.mp member]
    have boxClosed : (TypedValue.reference 0 "Lapp/Box;").ClosedIn (waiting.heaps.get 0) :=
      TypedValue.closedIn_reference.mpr resolves
    exact ((Frame.closedIn_blank 2 0 _).poke (.index 0) boxClosed).poke (.index 1) boxClosed

/-- The object is constructed, and constructing it again is safe too. -/
theorem safe_waiting :
    Interpreter.Tidy (Interpreter.absent Unit) ∧ Shared 0 waiting [waitingNode] ∧
      let machine : Machine Unit := { policy := {}, interpreter := Interpreter.absent Unit }
      let middle := (machine.session [(InvokeOp.rootConstruction, 0)] [waitingNode]).run
        waiting
      let last := (machine.session [(InvokeOp.rootConstruction, 0)] middle.1.2).run middle.2
      Safe 0 waiting middle.2 middle.1.1 middle.1.2 ∧
        Safe 0 middle.2 last.2 last.1.1 last.1.2 :=
  ⟨Interpreter.tidy_absent, shared_waiting,
    Machine.session_safe {} (Interpreter.absent Unit) Interpreter.tidy_absent shared_waiting
      [(InvokeOp.rootConstruction, 0)] [(InvokeOp.rootConstruction, 0)]⟩

end Session

end Callsite
