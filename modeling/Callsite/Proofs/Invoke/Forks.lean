import Callsite.Proofs.Graph.Consensus
import Callsite.Proofs.Invoke.Closed

/-!
# Results of forked paths

An interpreter may let each path of a graph own a fork of the callee's heap.  The caller
is handed the item that the ends of all paths agree on, with a handle of their heaps, but
its own heap does not get their objects.  So the result denotes the same object for the
caller as at the ends of the paths exactly if no path has another object for it than the
heap that was forked, and an object that was made on a fork cannot even be read.
-/

namespace Callsite

variable {σ : Type}

namespace Graph

variable (graph : Graph)

/-- Each path that returns ended in a fork of its own of the heap of a number, and every
node is closed in the heap it has. -/
structure Forks (id : HeapId) (before after : Analysis σ) : Prop where
  /-- Until it is forked the heap may be edited. -/
  edits : (before.heaps.get id).Edits (after.heaps.get id)
  own : ∀ last ∈ graph.terminating, last.activation.heap ≠ id
  apart : ∀ left ∈ graph.terminating, ∀ right ∈ graph.terminating,
    left.activation.heap = right.activation.heap → left = right
  forked : ∀ last ∈ graph.terminating,
    (after.heaps.get id).Edits (after.heaps.get last.activation.heap)
  closed : ∀ node ∈ graph.nodes,
    node.frame.ClosedIn (after.heaps.get node.activation.heap)

/-- No path that returns has another object for a handle than the heap of a number has. -/
def LeavesAlone (heaps : HeapStore) (id : HeapId) (handle : Handle) : Prop :=
  ∀ last ∈ graph.terminating,
    (heaps.get last.activation.heap).get handle = (heaps.get id).get handle

/-- A handle denotes an object of the heap of a number, and the same one in the heap of
every path that returns. -/
def Shares (heaps : HeapStore) (id : HeapId) (handle : Handle) : Prop :=
  (heaps.get id).Resolves handle ∧ graph.LeavesAlone heaps id handle

variable {graph}

/-- A handle that denotes an object at the end of some path is shared if no path has another
object for it. -/
theorem shares_iff_leavesAlone {heaps : HeapStore} {id : HeapId} {handle : Handle} {last : Node}
    (member : last ∈ graph.terminating)
    (resolves : (heaps.get last.activation.heap).Resolves handle) :
    graph.Shares heaps id handle ↔ graph.LeavesAlone heaps id handle := by
  constructor
  · intro ⟨_, alone⟩
    exact alone
  · intro alone
    obtain ⟨inst, found⟩ := Heap.resolves_iff_exists_get.mp resolves
    rw [alone last member] at found
    exact ⟨Heap.resolves_iff_exists_get.mpr ⟨inst, found⟩, alone⟩

end Graph

/-- From closed activations in sound heaps the interpreter returns only graphs whose paths
own forks of the heap. -/
def Interpreter.Forking (interpreter : Interpreter σ) : Prop :=
  ∀ (method : Method) (callee : Activation) (graph : Graph) (before after : Analysis σ),
    (interpreter method callee).run before = (.ok (some graph), after) →
    (before.heaps.get callee.heap).Sound →
    callee.frame.ClosedIn (before.heaps.get callee.heap) →
    graph.Forks callee.heap before after

namespace InvokeOp

variable (machine : Machine σ) (op : InvokeOp) (node : Node) (before : Analysis σ)

/-- The activation that a call from a node executes the body of its target in. -/
def spawnFor : Activation :=
  op.spawnTarget (op.planFor machine before node).target (op.planFor machine before node).types
    (node.withFrame (op.planFor machine before node).frame).activation

/-- What interpreting the body of the target comes to. -/
def interpretFor : Except ExecutionError (Option Graph) × Analysis σ :=
  (machine.interpreter (op.planFor machine before node).target
    (op.spawnFor machine node before)).run ((op.plan machine node.activation).run before).2

/-- How the handle that the caller gets as a result relates to the forks. -/
structure ResultOfForks (handle : Handle) (graph : Graph) : Prop where
  interpreted : (op.interpretFor machine node before).1 = .ok (some graph)
  /-- The result is what the end of some path holds, an object of that path's heap. -/
  origin : ∃ last ∈ graph.terminating,
    last.frame.get? .returned =
        some (((op.execute machine node).run before).1.2.frame.peek .result) ∧
      (((op.execute machine node).run before).2.heaps.get last.activation.heap).Resolves
        handle
  /-- If it was made on a fork, the caller cannot read it. -/
  lost :
    (((op.execute machine node).run before).2.heaps.get node.activation.heap).size ≤ handle →
    (((op.execute machine node).run before).2.heaps.get node.activation.heap).get handle =
      .error (.invalidReference handle)
  /-- It is shared exactly if no path has another object for it, so never if it was made on a
  fork. -/
  shares_iff :
    graph.Shares ((op.execute machine node).run before).2.heaps node.activation.heap handle ↔
      graph.LeavesAlone ((op.execute machine node).run before).2.heaps
        node.activation.heap handle
  /-- If the paths only made new objects, it was enough to be there before the fork. -/
  shares_iff_of_growth :
    (∀ last ∈ graph.terminating,
      (((op.execute machine node).run before).2.heaps.get node.activation.heap).Growth
        (((op.execute machine node).run before).2.heaps.get last.activation.heap)) →
    (graph.Shares ((op.execute machine node).run before).2.heaps node.activation.heap
        handle ↔
      handle < (((op.execute machine node).run before).2.heaps.get
        node.activation.heap).size)

variable {machine op node before}

/-- A completed call of an interpreted method that returns something leaves the caller
what the ends of all paths agree on. -/
theorem result_of_completed {target : Method} {types : List TypeName} {after : Analysis σ}
    {returned : Node} {sideEffect : SideEffect}
    (route : op.Route machine target types node before .localRecurse sideEffect .completed
      returned after) (returns : op.method.returnsVoid = false) :
    ∃ graph ran,
      (machine.interpreter target (op.spawnTarget target types node.activation)).run before =
        (.ok (some graph), ran) ∧
      ran.Alike after ∧
      returned = node.withFrame (node.frame.assign .result
        (graph.consensusItem ran.registry.catalog .returned)) := by
  cases route with
  | @interpreted graph _ _ ran _ _ interpretation return_ =>
      cases return_ with
      | result _ alike => exact ⟨graph, ran, interpretation, alike, rfl⟩
      | nothing isVoid _ _ =>
          rw [returns] at isVoid
          cases isVoid
      | constructed isVoid _ _ _ _ =>
          rw [returns] at isVoid
          cases isVoid

/-- The graph that the body of the target was interpreted to, and what the caller gets. -/
theorem interpretFor_of_completed
    (recursed : ((op.execute machine node).run before).1.1.strategy = .localRecurse)
    (completed : ((op.execute machine node).run before).1.1.outcome = .completed)
    (returns : op.method.returnsVoid = false) :
    ∃ graph ran, op.interpretFor machine node before = (.ok (some graph), ran) ∧
      ran.Alike ((op.execute machine node).run before).2 ∧
      ((op.execute machine node).run before).1.2.frame.peek .result =
        graph.consensusItem ran.registry.catalog .returned := by
  obtain ⟨_, returned, route, strategy, node_eq⟩ := op.route_execute machine node before
  rw [completed, ← strategy, recursed] at route
  obtain ⟨graph, ran, interpretation, later, returned_eq⟩ := result_of_completed route returns
  refine ⟨graph, ran, interpretation, later, ?_⟩
  have written (frame : Frame) (item : TypedValue) :
      (frame.assign .result item).peek .result = item :=
    Frame.peek_of_get? ((frame.get?_assign .result .result item).trans (if_pos ⟨rfl, rfl⟩))
  rw [node_eq, returned_eq]
  exact written _ _

/-- From a closed node in a sound heap, the paths of this graph own forks, and the heap of
the node is still sound. -/
theorem forks_of_interpretFor (forking : machine.interpreter.Forking)
    (sound : (before.heaps.get node.activation.heap).Sound)
    (closed : node.frame.ClosedIn (before.heaps.get node.activation.heap)) {graph : Graph}
    {ran : Analysis σ}
    (interpretation : op.interpretFor machine node before = (.ok (some graph), ran)) :
    graph.Forks node.activation.heap ((op.plan machine node.activation).run before).2 ran ∧
      (ran.heaps.get node.activation.heap).Sound := by
  have alike : before.Alike ((op.plan machine node.activation).run before).2 :=
    op.alike_run_plan machine node.activation before
  have heap_eq : (op.spawnFor machine node before).heap = node.activation.heap := rfl
  have plannedSound : (((op.plan machine node.activation).run before).2.heaps.get
      (op.spawnFor machine node before).heap).Sound := by
    rw [heap_eq, alike.heaps]
    exact sound
  have plannedClosed : (op.spawnFor machine node before).frame.ClosedIn
      (((op.plan machine node.activation).run before).2.heaps.get
        (op.spawnFor machine node before).heap) := by
    rw [heap_eq, alike.heaps]
    refine Frame.ClosedIn.spawnTarget ?_ op _ _ rfl
    intro register item held
    exact closed register item ((get?_frame_planFor before node register).symm.trans held)
  have forks : graph.Forks node.activation.heap
      ((op.plan machine node.activation).run before).2 ran :=
    forking _ (op.spawnFor machine node before) graph _ ran interpretation plannedSound
      plannedClosed
  exact ⟨forks, Heap.Edits.sound forks.edits plannedSound⟩

/-- A reference that a completed call of an interpreted method returns from forked paths
denotes the same object for the caller as at the ends of the paths exactly if all of them
have left it alone.  If it was allocated after the fork, the caller cannot read it. -/
theorem resultOfForks_execute (forking : machine.interpreter.Forking)
    (sound : (before.heaps.get node.activation.heap).Sound)
    (closed : node.frame.ClosedIn (before.heaps.get node.activation.heap)) {handle : Handle}
    (recursed : ((op.execute machine node).run before).1.1.strategy = .localRecurse)
    (completed : ((op.execute machine node).run before).1.1.outcome = .completed)
    (returns : op.method.returnsVoid = false)
    (refers : (((op.execute machine node).run before).1.2.frame.peek .result).handle? =
      some handle) :
    ∃ graph, op.ResultOfForks machine node before handle graph := by
  obtain ⟨graph, ran, interpretation, later, result_eq⟩ :=
    interpretFor_of_completed recursed completed returns
  obtain ⟨forks, ranSound⟩ := forks_of_interpretFor forking sound closed interpretation
  have callerSound : (((op.execute machine node).run before).2.heaps.get
      node.activation.heap).Sound := by
    rw [later.heaps]
    exact ranSound
  obtain ⟨last, member, held, resolves⟩ : ∃ last ∈ graph.terminating,
      last.frame.get? .returned =
          some (((op.execute machine node).run before).1.2.frame.peek .result) ∧
        (((op.execute machine node).run before).2.heaps.get last.activation.heap).Resolves
          handle := by
    rw [result_eq] at refers ⊢
    obtain ⟨last, member, held⟩ := Graph.exists_terminating_of_handle?_consensusItem refers
    refine ⟨last, member, held, ?_⟩
    rw [later.heaps]
    exact forks.closed last (Graph.mem_nodes_of_mem_terminating member) _ _ held handle refers
  refine ⟨graph, ?_, ⟨last, member, held, resolves⟩, ?_,
    Graph.shares_iff_leavesAlone member resolves, ?_⟩
  · exact congrArg Prod.fst interpretation
  · intro outside
    exact Heap.get_of_size_le outside
  · intro growth
    rw [Graph.Shares, callerSound.resolves_iff]
    constructor
    · intro ⟨inside, _⟩
      exact inside
    · intro inside
      refine ⟨inside, ?_⟩
      intro last member
      exact (growth last member).get_eq (callerSound handle inside)

end InvokeOp

/-! ## An object made on a fork is lost -/

/-- The end of a path that made an object on a fork of the heap and returns it. -/
def Node.madeOnFork (callee : Activation) (fork : HeapId) (handle : Handle) : Node where
  address := 1
  activation :=
    { callee with
      frame := callee.frame.assign .returned (TypedValue.reference handle "Lapp/Box;")
      heap := fork }

/-- The graph of this path. -/
def Graph.makingOnFork (method : Method) (callee : Activation) (fork : HeapId)
    (handle : Handle) : Graph where
  method := method
  nodes := #[{ address := 0, activation := callee, children := [1] },
    Node.madeOnFork callee fork handle]

/-- The interpreter that finds this path through every method. -/
def Interpreter.makingOnFork : Interpreter σ := fun method callee => do
  let fork ← AnalysisM.forkHeap callee.heap
  if fork = callee.heap then
    return .ok none
  match (← AnalysisM.heap fork).alloc (.object "Lapp/Box;") with
  | .error _ => return .ok none
  | .ok (handle, grown) =>
      AnalysisM.setHeap fork grown
      return .ok (some (Graph.makingOnFork method callee fork handle))

theorem Graph.eq_of_mem_terminating_makingOnFork {method : Method} {callee : Activation}
    {fork : HeapId} {handle : Handle} {node : Node}
    (member : node ∈ (makingOnFork method callee fork handle).terminating) :
    node = Node.madeOnFork callee fork handle := by
  have ends := isTerminating_of_mem_terminating member
  have listed := mem_nodes_of_mem_terminating member
  simp only [makingOnFork, List.mem_toArray, List.mem_cons, List.not_mem_nil, or_false]
    at listed
  rcases listed with rfl | last
  · cases ends
  · exact last

theorem Interpreter.forking_makingOnFork : (makingOnFork (σ := σ)).Forking := by
  intro method callee graph before after ran _ closed
  have copied : (AnalysisM.forkHeap callee.heap).run before =
      (before.heaps.next,
        { before with
          heaps := (before.heaps.add (before.heaps.get callee.heap)).2 }) := rfl
  simp only [makingOnFork, AnalysisM.run_bind, copied] at ran
  split at ran
  · cases ran
  · next different =>
      simp only [AnalysisM.run_bind, AnalysisM.run_heap, HeapStore.get_add_self] at ran
      split at ran
      · cases ran
      · next handle grown allocated =>
          have graph_eq : graph = Graph.makingOnFork method callee before.heaps.next handle := by
            cases ran
            rfl
          have heaps_eq : after.heaps =
              (before.heaps.add (before.heaps.get callee.heap)).2.set before.heaps.next
                grown := by
            cases ran
            rfl
          have kept : after.heaps.get callee.heap = before.heaps.get callee.heap := by
            rw [heaps_eq, HeapStore.get_set_of_ne _ (Ne.symm different),
              before.heaps.get_add_of_ne (Ne.symm different)]
          have made : after.heaps.get before.heaps.next = grown := by
            rw [heaps_eq, HeapStore.get_set_self]
          have edits : (before.heaps.get callee.heap).Edits grown :=
            .single (.alloc rfl allocated)
          have only {last : Node} (member : last ∈ graph.terminating) :
              last = Node.madeOnFork callee before.heaps.next handle := by
            rw [graph_eq] at member
            exact Graph.eq_of_mem_terminating_makingOnFork member
          refine ⟨?_, ?_, ?_, ?_, ?_⟩
          · rw [kept]
          · intro last member
            rw [only member]
            exact different
          · intro left leftMember right rightMember _
            rw [only leftMember, only rightMember]
          · intro last member
            rw [only member, kept]
            exact made.symm ▸ edits
          · intro node member
            rw [graph_eq] at member
            simp only [Graph.makingOnFork, List.mem_toArray, List.mem_cons, List.not_mem_nil,
              or_false] at member
            rcases member with rfl | rfl
            · exact kept.symm ▸ closed
            · have resolves : grown.Resolves handle :=
                ⟨handle, Heap.resolve_alloc_self rfl allocated⟩
              have boxClosed :
                  (TypedValue.reference handle "Lapp/Box;").ClosedIn grown :=
                TypedValue.closedIn_reference.mpr resolves
              exact made.symm ▸ (closed.edits edits).assign .returned boxClosed

/-- A machine whose interpreter makes an object on a fork. -/
def Machine.makingOnFork : Machine Unit := { interpreter := Interpreter.makingOnFork }

namespace InvokeOp

/-- A call of a static method that returns an object. -/
def makeForked : InvokeOp where
  address := 0
  kind := { family := .static }
  method :=
    { signature := "Lapp/Box;->make()Lapp/Box;"
      className := "Lapp/Box;"
      name := "make"
      descriptor := "make()Lapp/Box;"
      declaredTypes := []
      returnType := "Lapp/Box;"
      flags := AccessFlags.isStatic
      body := some 1 }
  registers := []
  length_registers := by decide

/-- A node of a method that calls it. -/
def makeForkedNode : Node where
  address := 0
  activation := { method := makeForked.method, frame := Frame.blank 1 0, heap := 0 }

/-- A heap without objects. -/
def unforked : Analysis Unit where
  heaps := (HeapStore.empty.add (Heap.empty 2)).2
  own := ()

theorem sound_unforked : (unforked.heaps.get makeForkedNode.activation.heap).Sound :=
  Heap.sound_empty 2

theorem closed_makeForkedNode :
    makeForkedNode.frame.ClosedIn (unforked.heaps.get makeForkedNode.activation.heap) :=
  Frame.closedIn_blank 1 0 _

theorem recursed_makeForked :
    ((makeForked.execute Machine.makingOnFork makeForkedNode).run unforked).1.1.strategy =
      .localRecurse := by
  decide

theorem completed_makeForked :
    ((makeForked.execute Machine.makingOnFork makeForkedNode).run unforked).1.1.outcome =
      .completed := by
  decide +kernel

theorem refers_makeForked :
    (((makeForked.execute Machine.makingOnFork makeForkedNode).run
      unforked).1.2.frame.peek .result).handle? = some 0 := by
  decide +kernel

theorem size_makeForked :
    (((makeForked.execute Machine.makingOnFork makeForkedNode).run unforked).2.heaps.get
      makeForkedNode.activation.heap).size = 0 := by
  decide +kernel

theorem resultOfForks_makeForked :
    ∃ graph, makeForked.ResultOfForks Machine.makingOnFork makeForkedNode unforked 0 graph :=
  resultOfForks_execute Interpreter.forking_makingOnFork sound_unforked closed_makeForkedNode
    recursed_makeForked completed_makeForked rfl refers_makeForked

/-- A returned reference does not always denote an object of the caller's heap. -/
theorem result_lost_makeForked :
    ¬ ∀ (machine : Machine Unit) (op : InvokeOp) (node : Node) (before : Analysis Unit)
        (handle : Handle),
      machine.interpreter.Forking →
      (before.heaps.get node.activation.heap).Sound →
      node.frame.ClosedIn (before.heaps.get node.activation.heap) →
      ((op.execute machine node).run before).1.1.strategy = .localRecurse →
      ((op.execute machine node).run before).1.1.outcome = .completed →
      op.method.returnsVoid = false →
      (((op.execute machine node).run before).1.2.frame.peek .result).handle? =
        some handle →
      (((op.execute machine node).run before).2.heaps.get
        node.activation.heap).Resolves handle := by
  intro kept
  have resolves := kept Machine.makingOnFork makeForked makeForkedNode unforked 0
    Interpreter.forking_makingOnFork sound_unforked closed_makeForkedNode
    recursed_makeForked completed_makeForked rfl refers_makeForked
  have inside := resolves.lt_size
  rw [size_makeForked] at inside
  exact Nat.not_lt_zero 0 inside

end InvokeOp

end Callsite
