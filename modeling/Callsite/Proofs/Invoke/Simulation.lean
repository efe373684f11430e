import Callsite.Invoke.Execute

/-!
# Machines that simulate each other

The states of two analyses, whose collaborators may keep states of different types,
can correspond.  If the collaborators of two machines give the same answers in
corresponding states and keep them corresponding, then so does the execution of every
call site: `related_execute`.  Only the heap of the caller's node has to agree.
-/

namespace Callsite

variable {σ τ : Type} {rel : Analysis σ → Analysis τ → Prop} {id : HeapId}

/-- From corresponding states the steps return the same value, and end in
corresponding states. -/
def Related (rel : Analysis σ → Analysis τ → Prop) {α : Type} (left : AnalysisM σ α)
    (right : AnalysisM τ α) : Prop :=
  ∀ first second, rel first second →
    (left.run first).1 = (right.run second).1 ∧ rel (left.run first).2 (right.run second).2

/-- Corresponding states agree on the registered classes, the permissions and one heap,
and everything that calls do to them keeps them corresponding. -/
structure Correspondence (id : HeapId) (rel : Analysis σ → Analysis τ → Prop) : Prop where
  catalog {first : Analysis σ} {second : Analysis τ} :
    rel first second → first.registry.catalog = second.registry.catalog
  permitted {first : Analysis σ} {second : Analysis τ} :
    rel first second → first.registry.permitted = second.registry.permitted
  heap {first : Analysis σ} {second : Analysis τ} :
    rel first second → first.heaps.get id = second.heaps.get id
  setHeap (heap : Heap) :
    Related rel (AnalysisM.setHeap id heap) (AnalysisM.setHeap id heap)
  remark (made : Remark) : Related rel (AnalysisM.remark made) (AnalysisM.remark made)
  remarkAll (made : List Remark) :
    Related rel (AnalysisM.remarkAll made) (AnalysisM.remarkAll made)
  ancestors (name : TypeName) :
    Related rel (AnalysisM.ancestors name) (AnalysisM.ancestors name)

/-- The collaborators of the machines give the same answers in corresponding states,
as far as they are used on the heap of a number. -/
structure Machine.Simulates (id : HeapId) (rel : Analysis σ → Analysis τ → Prop)
    (left : Machine σ) (right : Machine τ) : Prop where
  policy : left.policy = right.policy
  canEmulate (signature : String) :
    left.emulator.canEmulate signature = right.emulator.canEmulate signature
  handlesUnknown (signature : String) :
    left.emulator.handlesUnknown signature = right.emulator.handlesUnknown signature
  emulate (signature : String) {callee : Activation} : callee.heap = id →
    Related rel (left.emulator.emulate callee signature)
      (right.emulator.emulate callee signature)
  reflect (method : Method) (frame : Frame) (heap : Heap) :
    Related rel (AnalysisM.lift (left.reflector method frame heap))
      (AnalysisM.lift (right.reflector method frame heap))
  instantiate (definition : ClassDef) :
    Related rel (AnalysisM.lift (left.instantiator definition))
      (AnalysisM.lift (right.instantiator definition))
  interpret (method : Method) {callee : Activation} : callee.heap = id →
    Related rel (left.interpreter method callee) (right.interpreter method callee)

namespace Related

theorem pure {α : Type} (value : α) :
    Related rel (Pure.pure value : AnalysisM σ α) (Pure.pure value) :=
  fun _ _ corresponds => ⟨rfl, corresponds⟩

theorem bind {α β : Type} {left : AnalysisM σ α} {right : AnalysisM τ α}
    {next : α → AnalysisM σ β} {other : α → AnalysisM τ β} (step : Related rel left right)
    (rest : ∀ value, Related rel (next value) (other value)) :
    Related rel (left >>= next) (right >>= other) := by
  intro first second corresponds
  obtain ⟨same, still⟩ := step first second corresponds
  rw [AnalysisM.run_bind, AnalysisM.run_bind, ← same]
  exact rest _ _ _ still

/-- Steps are still related when the same is made of what they return. -/
theorem map {α β : Type} {left : AnalysisM σ α} {right : AnalysisM τ α}
    (step : Related rel left right) (make : α → β) :
    Related rel (left >>= fun value => Pure.pure (make value))
      (right >>= fun value => Pure.pure (make value)) :=
  step.bind fun value => .pure (make value)

theorem mapM {α β : Type} {left : α → AnalysisM σ β} {right : α → AnalysisM τ β}
    (each : ∀ item, Related rel (left item) (right item)) (items : List α) :
    Related rel (items.mapM left) (items.mapM right) := by
  induction items with
  | nil => exact .pure []
  | cons item rest ih =>
      rw [List.mapM_cons, List.mapM_cons]
      exact (each item).bind fun _ => ih.map _

end Related

namespace Correspondence

variable (agree : Correspondence id rel)
include agree

theorem related_catalog : Related rel AnalysisM.catalog AnalysisM.catalog :=
  fun _ _ corresponds => ⟨agree.catalog corresponds, corresponds⟩

theorem related_heap : Related rel (AnalysisM.heap id) (AnalysisM.heap id) :=
  fun _ _ corresponds => ⟨agree.heap corresponds, corresponds⟩

theorem related_reconcile (item : TypedValue) (declared : TypeName) :
    Related rel (AnalysisM.reconcile item declared) (AnalysisM.reconcile item declared) := by
  rw [AnalysisM.reconcile, AnalysisM.reconcile]
  split
  · exact .pure declared
  · apply (agree.ancestors item.type.elementBase).bind
    intro chain
    cases chain with
    | error cause => exact (agree.remark _).map _
    | ok chain => exact .pure _

theorem related_reconcileAll (caller : Frame) (registers : List Nat)
    (declared : List TypeName) :
    Related rel (Arguments.reconcile caller registers declared)
      (Arguments.reconcile caller registers declared) := by
  rw [Arguments.reconcile]
  refine Related.mapM ?_ (declared.zip registers)
  rintro ⟨type, number⟩
  exact agree.related_reconcile (caller.peek (.index number)) type

theorem related_settle (graph : Graph) (register : Register) :
    Related rel (graph.settle register) (graph.settle register) := by
  rw [Graph.settle]
  apply agree.related_catalog.bind
  intro catalog
  cases graph.consensus catalog register with
  | unwritten _ => exact .pure _
  | agreed _ => exact .pure _
  | widened _ _ => exact (agree.remark _).map _

end Correspondence

namespace InvokeOp

variable {left : Machine σ} {right : Machine τ} (agree : Correspondence id rel)
  (simulates : left.Simulates id rel right) (op : InvokeOp) {target : Method}
  {types : List TypeName} {node : Node}

include simulates in
theorem classify_simulates {first second : Registry}
    (catalog : first.catalog = second.catalog) (permitted : first.permitted = second.permitted)
    (target : Method) :
    Strategy.classify left first target = Strategy.classify right second target := by
  have forbidden : first.isForbidden target.signature = second.isForbidden target.signature := by
    rw [Registry.isForbidden, Registry.isForbidden, Registry.isPermitted,
      Registry.isPermitted, catalog, permitted]
  simp only [Strategy.classify]
  rw [simulates.policy, simulates.canEmulate, forbidden]

include agree

theorem related_returnConstructed (on_heap : node.activation.heap = id)
    (item : TypedValue) :
    Related rel (op.returnConstructed target item node)
      (op.returnConstructed target item node) := by
  subst on_heap
  rw [returnConstructed, returnConstructed]
  split
  · exact .pure _
  · apply agree.related_heap.bind
    intro heap
    split
    · exact (agree.remark _).map _
    · exact (agree.setHeap _).map _

theorem related_returnFromGraph (on_heap : node.activation.heap = id) (start : Nat)
    (graph : Graph) :
    Related rel (op.returnFromGraph target start graph node)
      (op.returnFromGraph target start graph node) := by
  rw [returnFromGraph, returnFromGraph]
  split
  · exact (agree.related_settle graph .returned).map _
  · split
    · exact (agree.related_settle graph (.index start)).bind fun item =>
        related_returnConstructed agree op on_heap item
    · exact .pure _

include simulates

theorem related_giveUp :
    Related rel (op.giveUp left types node) (op.giveUp right types node) := by
  rw [giveUp]
  rw [simulates.policy]
  exact (agree.remarkAll _).map _

theorem related_decline (made : Remark) (reason : GiveUpReason) :
    Related rel (op.decline left types made reason node)
      (op.decline right types made reason node) :=
  (agree.remark made).bind fun _ =>
    (related_giveUp agree simulates op).map _

theorem related_abandon (made : Remark) (cause : ExecutionError) :
    Related rel (op.abandon left types made cause node)
      (op.abandon right types made cause node) :=
  (agree.remark made).bind fun _ =>
    (related_giveUp agree simulates op).map _

theorem related_returnFrom (on_heap : node.activation.heap = id) (callee : Frame) :
    Related rel (op.returnFrom left target callee node)
      (op.returnFrom right target callee node) := by
  subst on_heap
  rw [returnFrom]
  rw [simulates.policy]
  apply agree.related_heap.bind
  intro heap
  dsimp only
  split
  · exact (agree.remark _).map _
  · exact (agree.setHeap _).map _

theorem related_construct (on_heap : node.activation.heap = id) :
    Related rel (op.construct left node) (op.construct right node) := by
  subst on_heap
  have completed : Related rel (op.completeReceiver left node.activation)
      (op.completeReceiver right node.activation) := by
    rw [completeReceiver]
    apply agree.related_heap.bind
    intro heap
    split
    · exact .pure _
    · next number type _ =>
        have made : Related rel (left.newInstance type) (right.newInstance type) := by
          rw [Machine.newInstance]
          apply agree.related_catalog.bind
          intro catalog
          cases catalog.resolve type with
          | error cause => exact .pure _
          | ok definition => exact simulates.instantiate definition
        apply made.bind
        intro inst
        cases inst with
        | error cause => exact .pure _
        | ok inst => exact (agree.setHeap _).map _
  apply completed.bind
  intro frame
  cases frame with
  | error cause => exact (agree.remark _).map _
  | ok frame => exact .pure _

theorem related_emulate (on_heap : node.activation.heap = id) {callee : Activation}
    (callee_heap : callee.heap = id) :
    Related rel (op.emulate left target types callee node)
      (op.emulate right target types callee node) := by
  apply (simulates.emulate target.signature callee_heap).bind
  intro emulated
  obtain ⟨emulated, callee⟩ := emulated
  cases emulated with
  | error cause => exact related_abandon agree simulates op _ _
  | ok result =>
      dsimp only
      split
      · exact (related_returnFrom agree simulates op on_heap _).map _
      · exact .pure _

theorem related_reflect (on_heap : node.activation.heap = id) {callee : Activation}
    (callee_heap : callee.heap = id) :
    Related rel (op.reflect left target callee node)
      (op.reflect right target callee node) := by
  rw [reflect, reflect]
  rw [callee_heap]
  apply agree.related_heap.bind
  intro heap
  apply (simulates.reflect target callee.frame heap).bind
  intro reflected
  obtain ⟨reflected, frame, heap⟩ := reflected
  apply (agree.setHeap heap).bind
  intro _
  cases reflected with
  | error cause => exact (agree.remark _).map _
  | ok _ => exact (related_returnFrom agree simulates op on_heap _).map _

theorem related_emulateOrReflect (on_heap : node.activation.heap = id) :
    Related rel (op.emulateOrReflect left target types node)
      (op.emulateOrReflect right target types node) := by
  simp only [emulateOrReflect, simulates.handlesUnknown, simulates.canEmulate,
    simulates.policy]
  split
  · exact related_decline agree simulates op _ _
  · split
    · exact related_emulate agree simulates op on_heap on_heap
    · split
      · exact related_reflect agree simulates op on_heap on_heap
      · exact (related_returnFrom agree simulates op on_heap _).map _

theorem related_recurse (on_heap : node.activation.heap = id) :
    Related rel (op.recurse left target types node)
      (op.recurse right target types node) := by
  have executed : Related rel
      (left.execute target.signature (op.spawnTarget target types node.activation)
        (some node.activation) op.address)
      (right.execute target.signature (op.spawnTarget target types node.activation)
        (some node.activation) op.address) := by
    rw [Machine.execute, Machine.execute]
    rw [simulates.policy]
    split
    · exact (agree.remark _).map _
    · exact simulates.interpret _ on_heap
  apply executed.bind
  intro result
  match result with
  | .error cause => exact related_abandon agree simulates op _ _
  | .ok none => exact related_decline agree simulates op _ _
  | .ok (some graph) =>
      exact (related_returnFromGraph agree op on_heap _ graph).map _

theorem related_executeBy (on_heap : node.activation.heap = id) (strategy : Strategy) :
    Related rel (op.executeBy left strategy target types node)
      (op.executeBy right strategy target types node) := by
  cases strategy with
  | constructObject =>
      exact (related_construct agree simulates op on_heap).map _
  | emulateOrReflect => exact related_emulateOrReflect agree simulates op on_heap
  | unsafeFramework => exact related_decline agree simulates op _ _
  | noImplementation native =>
      cases native with
      | true => exact related_decline agree simulates op _ _
      | false => exact related_decline agree simulates op _ _
  | localRecurse => exact related_recurse agree simulates op on_heap

theorem related_plan {caller : Activation} (on_heap : caller.heap = id) :
    Related rel (op.plan left caller) (op.plan right caller) := by
  rw [plan, plan]
  split
  · exact .pure _
  · apply (agree.related_reconcileAll caller.frame op.registers op.method.parameterTypes).bind
    -- The registries may remember different chains, so what is read off them is compared.
    intro types first second corresponds
    have catalog := agree.catalog corresponds
    have permitted := agree.permitted corresponds
    have sameHeap := agree.heap corresponds
    simp only [AnalysisM.run_bind, AnalysisM.run_registry, AnalysisM.run_heap, on_heap, catalog,
      sameHeap, classify_simulates simulates catalog permitted]
    by_cases declared : (op.target second.registry.catalog (second.heaps.get id)
        caller.frame).signature = op.method.signature
    · simp only [ne_eq, declared, not_true_eq_false, if_false]
      exact ⟨rfl, corresponds⟩
    · simp only [ne_eq, declared, not_false_eq_true, if_true]
      exact ⟨rfl, (agree.remark _ first second corresponds).2⟩

/-- Executing a call site on either machine from corresponding states comes to the same,
and the states still correspond afterwards. -/
theorem related_execute (on_heap : node.activation.heap = id) :
    Related rel (op.execute left node) (op.execute right node) := by
  apply (related_plan agree simulates op on_heap).bind
  intro plan
  have still_on_heap : (node.withFrame plan.frame).activation.heap = id := on_heap
  have executed : Related rel
      (op.executeBy left plan.strategy plan.target plan.types (node.withFrame plan.frame))
      (op.executeBy right plan.strategy plan.target plan.types (node.withFrame plan.frame)) :=
    related_executeBy agree simulates op still_on_heap plan.strategy
  exact executed.map _

end InvokeOp

end Callsite
