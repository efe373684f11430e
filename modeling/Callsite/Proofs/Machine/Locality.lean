import Callsite.Invoke.Nested
import Callsite.Proofs.Emulation.InPlace
import Callsite.Proofs.Graph.View
import Callsite.Proofs.Invoke.Plan
import Callsite.Proofs.Invoke.Simulation

/-!
# Collaborators that keep to one heap

A step keeps to a heap if what it comes to and what it makes of that heap depend on nothing
but that heap and the registered classes, and if it leaves every other heap as it was.  It may
put heaps under new numbers, such as forks of its own.  A machine keeps to heaps if each of
its collaborators keeps to the heap that it is handed, and then executing a call site keeps
to the heap of the caller's node.
-/

namespace Callsite

variable {σ α : Type} {id : HeapId}

namespace Analysis

/-- The states cannot be told apart by one who sees the registered classes and the heap of a
number. -/
structure AgreeOn (id : HeapId) (first second : Analysis σ) : Prop where
  catalog : first.registry.catalog = second.registry.catalog
  permitted : first.registry.permitted = second.registry.permitted
  heap : first.heaps.get id = second.heaps.get id

/-- Of all heaps that there were, only the one of a number may have changed. -/
structure UnchangedBeside (id : HeapId) (before after : Analysis σ) : Prop where
  catalog : after.registry.catalog = before.registry.catalog
  permitted : after.registry.permitted = before.registry.permitted
  heap : ∀ other < before.heaps.next, other ≠ id →
    after.heaps.get other = before.heaps.get other
  next : before.heaps.next ≤ after.heaps.next

namespace UnchangedBeside

variable {first second third : Analysis σ}

theorem refl (analysis : Analysis σ) : analysis.UnchangedBeside id analysis :=
  ⟨rfl, rfl, fun _ _ _ => rfl, Nat.le_refl _⟩

theorem trans (earlier : first.UnchangedBeside id second)
    (later : second.UnchangedBeside id third) : first.UnchangedBeside id third where
  catalog := later.catalog.trans earlier.catalog
  permitted := later.permitted.trans earlier.permitted
  heap other given different :=
    (later.heap other (Nat.lt_of_lt_of_le given earlier.next) different).trans
      (earlier.heap other given different)
  next := Nat.le_trans earlier.next later.next

/-- What changes on one heap is not seen on another. -/
theorem agreeOn {other : HeapId} (unchanged : first.UnchangedBeside id second)
    (given : other < first.heaps.next) (different : other ≠ id) :
    second.AgreeOn other first where
  catalog := unchanged.catalog
  permitted := unchanged.permitted
  heap := unchanged.heap other given different

end UnchangedBeside

end Analysis

/-- The step reads and writes no heap but the one of a number, and new ones. -/
structure AnalysisM.KeepsTo (id : HeapId) (step : AnalysisM σ α) : Prop where
  same : ∀ first second : Analysis σ, first.AgreeOn id second →
    id < first.heaps.next → id < second.heaps.next →
      (step.run first).1 = (step.run second).1 ∧
        (step.run first).2.heaps.get id = (step.run second).2.heaps.get id
  beside : ∀ before : Analysis σ, id < before.heaps.next →
    before.UnchangedBeside id (step.run before).2

namespace AnalysisM.KeepsTo

variable {β : Type} {step : AnalysisM σ α} {first second : Analysis σ}

/-- States that agree still do after a step. -/
theorem agreeOn (keeps : step.KeepsTo id) (agree : first.AgreeOn id second)
    (given_first : id < first.heaps.next) (given_second : id < second.heaps.next) :
    (step.run first).2.AgreeOn id (step.run second).2 where
  catalog := by
    rw [(keeps.beside first given_first).catalog, (keeps.beside second given_second).catalog]
    exact agree.catalog
  permitted := by
    rw [(keeps.beside first given_first).permitted,
      (keeps.beside second given_second).permitted]
    exact agree.permitted
  heap := (keeps.same first second agree given_first given_second).2

theorem given (keeps : step.KeepsTo id) (given : id < first.heaps.next) :
    id < (step.run first).2.heaps.next :=
  Nat.lt_of_lt_of_le given (keeps.beside first given).next

theorem bind {next : α → AnalysisM σ β} (keeps : step.KeepsTo id)
    (rest : ∀ value, (next value).KeepsTo id) : (step >>= next).KeepsTo id where
  same first second agree given_first given_second := by
    rw [run_bind, run_bind, (keeps.same first second agree given_first given_second).1]
    exact (rest _).same _ _ (keeps.agreeOn agree given_first given_second)
      (keeps.given given_first) (keeps.given given_second)
  beside before given :=
    (keeps.beside before given).trans ((rest _).beside _ (keeps.given given))

theorem pure (id : HeapId) (value : α) : (Pure.pure value : AnalysisM σ α).KeepsTo id where
  same _ _ agree _ _ := ⟨rfl, agree.heap⟩
  beside before _ := .refl before

end AnalysisM.KeepsTo

/-! ## What is seen of an interpreter -/

/-- The interpreter as a caller sees it: of the graphs that it returns, the numbers of heaps
do not count. -/
def Interpreter.seen (interpreter : Interpreter σ) : Interpreter σ := fun method callee => do
  let result ← interpreter method callee
  return result.map fun graph? => graph?.map Graph.withoutHeaps

theorem Interpreter.run_seen (interpreter : Interpreter σ) (method : Method)
    (callee : Activation) (before : Analysis σ) :
    (interpreter.seen method callee).run before =
      (((interpreter method callee).run before).1.map fun graph? =>
          graph?.map Graph.withoutHeaps,
        ((interpreter method callee).run before).2) := rfl

/-- What keeps to a heap is seen to do so. -/
theorem Interpreter.keepsTo_seen {interpreter : Interpreter σ} {method : Method}
    {callee : Activation} (keeps : (interpreter method callee).KeepsTo id) :
    (interpreter.seen method callee).KeepsTo id :=
  keeps.bind fun result => .pure id (result.map fun graph? => graph?.map Graph.withoutHeaps)

/-- The machine as its callers see it. -/
def Machine.seen (machine : Machine σ) : Machine σ :=
  { machine with interpreter := machine.interpreter.seen }

namespace InvokeOp

variable (machine : Machine σ) (op : InvokeOp)

theorem returnFromGraph_withoutHeaps (target : Method) (start : Nat) (graph : Graph)
    (node : Node) :
    (op.returnFromGraph target start graph.withoutHeaps node : AnalysisM σ (Outcome × Node)) =
      op.returnFromGraph target start graph node := by
  rw [returnFromGraph, returnFromGraph, Graph.settle_withoutHeaps, Graph.settle_withoutHeaps]

theorem run_recurse_seen (target : Method) (types : List TypeName) (node : Node)
    (before : Analysis σ) :
    (op.recurse machine.seen target types node).run before =
      (op.recurse machine target types node).run before := by
  have samePolicy : machine.seen.policy = machine.policy := rfl
  have sameMethod : (op.spawnTarget target types node.activation).method = target := rfl
  by_cases tooDeep : machine.policy.limits.callDepth <
      (op.spawnTarget target types node.activation).depth
  · simp only [recurse, Machine.execute, samePolicy, tooDeep, if_true]
    rfl
  · have seen := machine.interpreter.run_seen target
      (op.spawnTarget target types node.activation) before
    simp only [recurse, Machine.execute, tooDeep, if_false, AnalysisM.run_bind, sameMethod,
      Machine.seen, seen]
    cases ((machine.interpreter target
        (op.spawnTarget target types node.activation)).run before).1 with
    | error cause => rfl
    | ok graph? =>
        cases graph? with
        | none => rfl
        | some graph =>
            simp only [Except.map, Option.map_some, AnalysisM.run_bind,
              returnFromGraph_withoutHeaps, Graph.sideEffect_withoutHeaps]

/-- What an interpreter returns matters to a call only as far as callers see it. -/
theorem execute_seen (node : Node) :
    op.execute machine.seen node = op.execute machine node := by
  have sameBy (strategy : Strategy) (target : Method) (types : List TypeName) (node : Node) :
      op.executeBy machine.seen strategy target types node =
        op.executeBy machine strategy target types node := by
    cases strategy with
    | constructObject => rfl
    | emulateOrReflect => rfl
    | unsafeFramework => rfl
    | noImplementation native => cases native <;> rfl
    | localRecurse =>
        funext before
        exact op.run_recurse_seen machine target types node before
  simp only [execute, sameBy]
  rfl

end InvokeOp

/-! ## Machines that keep to heaps -/

/-- Each collaborator reads and writes no heap but the one that it is handed, and reads
nothing that it kept from another call. -/
structure Machine.KeepsToHeaps (machine : Machine σ) : Prop where
  emulate (callee : Activation) (signature : String) :
    (machine.emulator.emulate callee signature).KeepsTo callee.heap
  reflect (method : Method) (frame : Frame) (heap : Heap) (own other : σ) :
    ((machine.reflector method frame heap).run own).1 =
      ((machine.reflector method frame heap).run other).1
  instantiate (definition : ClassDef) (own other : σ) :
    ((machine.instantiator definition).run own).1 =
      ((machine.instantiator definition).run other).1
  interpret (method : Method) (callee : Activation) :
    (machine.interpreter.seen method callee).KeepsTo callee.heap

/-- The states agree on a heap, and the first one is what became of a given state without a
change to any other heap. -/
structure Analysis.Parallel (id : HeapId) (base first second : Analysis σ) : Prop where
  agree : first.AgreeOn id second
  beside : base.UnchangedBeside id first
  given_first : id < first.heaps.next
  given_second : id < second.heaps.next

namespace Analysis.Parallel

variable {base : Analysis σ}

theorem related_of_keepsTo {step : AnalysisM σ α} (keeps : step.KeepsTo id) :
    Related (Parallel id base) step step := by
  intro first second parallel
  obtain ⟨agree, beside, given_first, given_second⟩ := parallel
  constructor
  · exact (keeps.same first second agree given_first given_second).1
  · exact ⟨keeps.agreeOn agree given_first given_second,
      beside.trans (keeps.beside first given_first), keeps.given given_first,
      keeps.given given_second⟩

end Analysis.Parallel

namespace AnalysisM

theorem keepsTo_setHeap (id : HeapId) (heap : Heap) :
    (setHeap id heap : AnalysisM σ Unit).KeepsTo id where
  same first second _ _ _ := by
    simp only [run_setHeap, HeapStore.get_set_self, and_self]
  beside before _ :=
    { catalog := rfl
      permitted := rfl
      heap := fun _ _ different => before.heaps.get_set_of_ne different heap
      next := Nat.le_refl _ }

/-- A step that makes remarks and remembers supertypes keeps to every heap. -/
theorem keepsTo_of_alike {step : AnalysisM σ α} (id : HeapId)
    (alike : ∀ before : Analysis σ, before.Alike (step.run before).2)
    (same : ∀ first second : Analysis σ, first.AgreeOn id second →
      (step.run first).1 = (step.run second).1) : step.KeepsTo id where
  same first second agree _ _ := by
    rw [(alike first).heaps, (alike second).heaps]
    exact ⟨same first second agree, agree.heap⟩
  beside before _ :=
    { catalog := (alike before).catalog
      permitted := (alike before).permitted
      heap := fun _ _ _ => by rw [(alike before).heaps]
      next := Nat.le_of_eq (congrArg HeapStore.next (alike before).heaps.symm) }

theorem keepsTo_remark (id : HeapId) (made : Remark) :
    (remark made : AnalysisM σ Unit).KeepsTo id :=
  keepsTo_of_alike id (fun before => .run_remark before made) fun _ _ _ => rfl

theorem keepsTo_remarkAll (id : HeapId) (made : List Remark) :
    (remarkAll made : AnalysisM σ Unit).KeepsTo id :=
  keepsTo_of_alike id (fun before => .run_remarkAll before made) fun _ _ _ => rfl

/-- What is remembered of supertypes does not show in an answer. -/
theorem keepsTo_ancestors (id : HeapId) (name : TypeName) :
    (ancestors name : AnalysisM σ (Except Error (List TypeName))).KeepsTo id :=
  keepsTo_of_alike id (fun before => .run_ancestors before name) fun _ _ agree => by
    rw [run_ancestors, run_ancestors, agree.catalog]

/-- A collaborator with nothing but its own state keeps to every heap if it does not read that
state. -/
theorem keepsTo_lift (id : HeapId) {step : StateM σ α}
    (same : ∀ own other : σ, (step.run own).1 = (step.run other).1) :
    (lift step).KeepsTo id where
  same first second agree _ _ := ⟨same first.own second.own, agree.heap⟩
  beside _ _ := ⟨rfl, rfl, fun _ _ _ => rfl, Nat.le_refl _⟩

end AnalysisM

namespace Analysis.Parallel

theorem correspondence (id : HeapId) (base : Analysis σ) :
    Correspondence id (Parallel id base) where
  catalog parallel := parallel.agree.catalog
  permitted parallel := parallel.agree.permitted
  heap parallel := parallel.agree.heap
  setHeap heap := related_of_keepsTo (AnalysisM.keepsTo_setHeap id heap)
  remark made := related_of_keepsTo (AnalysisM.keepsTo_remark id made)
  remarkAll made := related_of_keepsTo (AnalysisM.keepsTo_remarkAll id made)
  ancestors name := related_of_keepsTo (AnalysisM.keepsTo_ancestors id name)

theorem simulates {machine : Machine σ} (keeps : machine.KeepsToHeaps) (id : HeapId)
    (base : Analysis σ) : machine.seen.Simulates id (Parallel id base) machine.seen where
  policy := rfl
  canEmulate _ := rfl
  handlesUnknown _ := rfl
  emulate signature callee on_heap := by
    rw [← on_heap]
    exact related_of_keepsTo (keeps.emulate callee signature)
  reflect method frame heap :=
    related_of_keepsTo (AnalysisM.keepsTo_lift id (keeps.reflect method frame heap))
  instantiate definition :=
    related_of_keepsTo (AnalysisM.keepsTo_lift id (keeps.instantiate definition))
  interpret method callee on_heap := by
    rw [← on_heap]
    exact related_of_keepsTo (keeps.interpret method callee)

end Analysis.Parallel

/-- On a machine that keeps to heaps, executing a call site keeps to the heap of its node. -/
theorem Machine.KeepsToHeaps.execute {machine : Machine σ} (keeps : machine.KeepsToHeaps)
    (op : InvokeOp) (node : Node) :
    (op.execute machine node).KeepsTo node.activation.heap := by
  rw [← op.execute_seen machine node]
  have related (base : Analysis σ) :
      Related (Analysis.Parallel node.activation.heap base)
        (op.execute machine.seen node) (op.execute machine.seen node) :=
    InvokeOp.related_execute (Analysis.Parallel.correspondence _ base)
      (Analysis.Parallel.simulates keeps _ base) op rfl
  constructor
  · intro first second agree given_first given_second
    obtain ⟨value, after⟩ := related first first second
      ⟨agree, .refl first, given_first, given_second⟩
    exact ⟨value, after.agree.heap⟩
  · intro before given
    have agree : before.AgreeOn node.activation.heap before := ⟨rfl, rfl, rfl⟩
    exact (related before before before ⟨agree, .refl before, given, given⟩).2.beside

/-! ## The collaborators that a machine has from the start -/

theorem JavaLang.keepsTo_handler (emulated : Emulated) (callee : Activation) :
    (handler emulated callee : AnalysisM σ (Except Error EmulationResult × Activation)).KeepsTo
      callee.heap where
  same first second agree _ _ := by
    rw [run_handler, run_handler, agree.heap]
    simp only [HeapStore.get_set_self, and_self]
  beside before _ := by
    rw [run_handler]
    exact ⟨rfl, rfl, fun _ _ different => before.heaps.get_set_of_ne different _,
      Nat.le_refl _⟩

theorem JavaLang.keepsTo_emulate (callee : Activation) (signature : String) :
    ((emulator σ).emulate callee signature).KeepsTo callee.heap := by
  rw [Emulator.emulate]
  split
  · exact .pure callee.heap _
  · next method found =>
      obtain ⟨emulated, _, rfl⟩ := List.mem_map.mp (List.mem_of_find?_eq_some found)
      exact (AnalysisM.keepsTo_remark callee.heap _).bind fun _ =>
        keepsTo_handler emulated callee

/-- An interpreter that never runs anything keeps to every heap. -/
theorem Interpreter.keepsTo_absent (id : HeapId) (method : Method) (callee : Activation) :
    (Interpreter.absent σ method callee).KeepsTo id :=
  (AnalysisM.keepsTo_remark id (.noInterpreter method.signature)).bind fun _ =>
    AnalysisM.KeepsTo.pure id (Except.ok none)

/-- With the collaborators that a machine has from the start, all depends on the
interpreter. -/
theorem Machine.keepsToHeaps_of_interpreter (policy : Policy) {interpreter : Interpreter σ}
    (interpret : ∀ method callee, (interpreter.seen method callee).KeepsTo callee.heap) :
    ({ policy, interpreter } : Machine σ).KeepsToHeaps where
  emulate := JavaLang.keepsTo_emulate
  reflect method frame heap own other := by
    rw [JavaLang.run_reflector, JavaLang.run_reflector]
  instantiate _ _ _ := rfl
  interpret := interpret

/-! ## Nested bodies -/

/-- The bodies keep to the heap that they start on, whatever executes the call sites in them,
as long as that does. -/
def BodyInterpreter.KeepsToHeaps (body : BodyInterpreter σ) : Prop :=
  ∀ execute : InvokeOp → Node → AnalysisM σ (Invocation × Node),
    (∀ op node, (execute op node).KeepsTo node.activation.heap) →
    ∀ method callee, (Interpreter.seen (body execute) method callee).KeepsTo callee.heap

/-- A machine that executes the call sites in bodies by itself keeps to heaps if its own
collaborators do and the bodies do, however deep they are nested. -/
theorem Machine.KeepsToHeaps.nest {machine : Machine σ} (keeps : machine.KeepsToHeaps)
    {body : BodyInterpreter σ} (bodies : body.KeepsToHeaps) (levels : Nat) :
    (machine.nest body levels).KeepsToHeaps := by
  induction levels with
  | zero =>
      exact { keeps with interpret := fun _ callee => .pure callee.heap _ }
  | succ levels ih =>
      exact { keeps with interpret := bodies _ fun op node => ih.execute op node }

end Callsite
