import Callsite.Proofs.Frame.Substitution
import Callsite.Proofs.Invoke.Evidence
import Callsite.Proofs.Machine.AllOrNothing

/-!
# Calls that take nothing half-way

If the collaborators take nothing half-way, neither do calls.  A call that raises adds its
exceptions to the caller's node and does nothing else (`raised_of_route`).  A construction
that fails has not put its instance into the heap: once there is room for the instance, it
can take the place of the placeholder (`exists_placement`), and everything else that may
fail comes before.
-/

namespace Callsite

variable {σ : Type}

/-- An emulated method that does not return has changed nothing. -/
theorem Emulator.unchanged_of_notReturned {emulator : Emulator σ}
    (handlers : ∀ method ∈ emulator.methods, method.handler.AllOrNothing)
    {callee left : Activation} {signature : String} {before after : Analysis σ}
    {result : Except Error EmulationResult}
    (emulation : (emulator.emulate callee signature).run before = ((result, left), after))
    (notReturned : NotReturned result) :
    left = callee ∧ ∀ id, after.heaps.get id = before.heaps.get id := by
  rw [emulate] at emulation
  cases found : emulator.find? signature with
  | none =>
      simp only [found] at emulation
      cases emulation
      exact ⟨rfl, fun id => rfl⟩
  | some method =>
      have member : method ∈ emulator.methods := List.mem_of_find?_eq_some found
      have unchanged := handlers method member callee
        ((AnalysisM.remark (.emulating signature)).run before).2
      simp only [found, AnalysisM.run_bind] at emulation
      simp only [emulation] at unchanged
      exact unchanged notReturned

namespace InvokeOp

section Placement

variable {op : InvokeOp} {heap grown : Heap} {frame : Frame} {number : Nat}
  {type : TypeName} {inst : Instance} {new : Handle}

/-- An instance that there was room for takes the place of the placeholder. -/
theorem exists_placement (waiting : op.placeholder heap frame = .ok (number, type))
    (isLive : inst.isLive = true) (allocated : heap.alloc inst = .ok (new, grown)) :
    ∃ old merged after, (frame.peek (.index number)).handle? = some old ∧
      grown.forward old new = .ok merged ∧
      frame.placeInstance heap number type inst = (.ok after, merged) := by
  obtain ⟨_, old, holds, found⟩ := placeholder_eq_ok.mp waiting
  have oldResolves : heap.Resolves old := Heap.resolves_iff_exists_get.mpr ⟨_, found⟩
  have different : new ≠ old := by
    rintro rfl
    exact Heap.not_resolves_of_alloc allocated oldResolves
  have refers : (TypedValue.reference new type).handle? = some new := rfl
  obtain ⟨slot, resolved⟩ := oldResolves
  obtain ⟨after, merged, placed, forwarded⟩ :=
    Frame.exists_substitution holds refers different
      ⟨slot, Heap.resolve_alloc allocated resolved⟩
      ⟨new, Heap.resolve_alloc_self isLive allocated⟩
  exact ⟨old, merged, after, holds, forwarded,
    Frame.placeInstance_eq_ok.mpr ⟨new, grown, allocated, placed⟩⟩

/-- An instance that cannot be placed was not put into the heap. -/
theorem heap_of_notPlaced {cause : Error}
    (waiting : op.placeholder heap frame = .ok (number, type)) (isLive : inst.isLive = true)
    (failed : frame.placeInstance heap number type inst = (.error cause, grown)) :
    grown = heap := by
  cases allocated : heap.alloc inst with
  | error full =>
      simp only [Frame.placeInstance, allocated] at failed
      cases failed
      rfl
  | ok allocation =>
      obtain ⟨_, _, _, _, _, placed⟩ := exists_placement waiting isLive allocated
      rw [placed] at failed
      cases failed

end Placement

/-- What a call raises: the exceptions of the emulated method, or the one that the failure
of a reflected method shows as. -/
inductive Raises (machine : Machine σ) (op : InvokeOp) (target : Method)
    (types : List TypeName) (node : Node) (before : Analysis σ) : List Exception → Prop where
  | emulated {result : EmulationResult} {left : Activation} {after : Analysis σ} :
      (machine.emulator.emulate (op.calleeOf types node.activation) target.signature).run
        before = ((.ok result, left), after) →
      Raises machine op target types node before result.exceptions
  | reflected {cause : ReflectionError} {frame : Frame} {heap : Heap} {own : σ} :
      (machine.reflector target (op.calleeOf types node.activation).frame
        (before.heaps.get node.activation.heap)).run before.own =
          ((.error cause, frame, heap), own) →
      Raises machine op target types node before [Exception.ofReflectionError cause]

variable {machine : Machine σ} {op : InvokeOp} {target : Method} {types : List TypeName}
  {node returned : Node} {before after : Analysis σ} {strategy : Strategy}
  {level : SideEffect} {outcome : Outcome}

/-- A call that raises adds its exceptions to the node and does nothing else. -/
theorem raised_of_route (collaborators : machine.AllOrNothing) {count : Nat}
    (raised : outcome = .raised count)
    (route : op.Route machine target types node before strategy level outcome returned
      after) :
    (∀ id, after.heaps.get id = before.heaps.get id) ∧
      ∃ exceptions, op.Raises machine target types node before exceptions ∧
        exceptions ≠ [] ∧ exceptions.length = count ∧ returned = node.raise exceptions := by
  cases route with
  | emulationRaised _ _ emulation exceptions =>
      cases raised
      have unchanged := Emulator.unchanged_of_notReturned collaborators.handlers emulation
        (.raised exceptions)
      exact ⟨unchanged.2, _, .emulated emulation, exceptions, rfl, rfl⟩
  | reflectionRaised _ _ _ reflection alike =>
      cases raised
      have unchanged := collaborators.reflector target (op.calleeOf types node.activation).frame
        (before.heaps.get node.activation.heap) before.own
      simp only [reflection] at unchanged
      cases unchanged _ rfl
      constructor
      · intro id
        rw [alike.heaps]
        exact before.heaps.get_set_get node.activation.heap id
      · exact ⟨_, .reflected reflection, List.cons_ne_nil _ _, rfl, rfl⟩
  | emulated _ _ _ _ return_ =>
      rw [raised] at return_
      cases ran_of_returned return_
  | reflected _ _ _ _ return_ =>
      rw [raised] at return_
      cases ran_of_returned return_
  | passedThrough _ _ return_ =>
      rw [raised] at return_
      cases ran_of_returned return_
  | interpreted _ _ return_ =>
      rw [raised] at return_
      cases ran_of_graphReturned return_
  | _ => cases raised

/-- A construction that fails leaves everything as it was. -/
theorem unconstructed_of_route (collaborators : machine.AllOrNothing) {cause : Error}
    (constructs : strategy = .constructObject) (failed : outcome = .internalFault cause)
    (route : op.Route machine target types node before strategy level outcome returned
      after) :
    (∀ id, after.heaps.get id = before.heaps.get id) ∧ returned = node := by
  cases route with
  | unconstructed _ alike => exact ⟨fun id => by rw [alike.heaps], rfl⟩
  | notInstantiated _ _ _ alike => exact ⟨fun id => by rw [alike.heaps], rfl⟩
  | notPlaced waiting _ instantiated notPlaced alike =>
      have isLive := collaborators.instantiator _ _ _ (congrArg Prod.fst instantiated)
      have same := heap_of_notPlaced waiting isLive notPlaced
      constructor
      · intro id
        rw [alike.heaps, same]
        exact before.heaps.get_set_get node.activation.heap id
      · rfl
  | constructed => cases failed
  | refused => cases failed
  | _ => cases constructs

end InvokeOp

/-- What a call leaves that raised, or that was to complete an object and could not.  The
first leaves all heaps, all registers and the record of what was written as they were, and
ends the path with the exceptions that were raised; the second leaves the node and all
heaps as they were, since what is in the heap by then takes the place of the placeholder. -/
structure Call.AllOrNothing (machine : Machine σ) (call : Call σ) : Prop where
  raised : ∀ count, (call.invocation machine).outcome = .raised count →
    (∀ id, (call.run machine).2.heaps.get id = call.before.heaps.get id) ∧
      (∀ register,
        (call.returned machine).frame.get? register = call.node.frame.get? register) ∧
      (call.returned machine).frame.assigned = call.node.frame.assigned ∧
      (call.returned machine).children = [] ∧
      0 < count ∧ (call.returned machine).exceptions.length = count ∧
      call.op.Raises machine (call.plan machine).target (call.plan machine).types
        (call.planned machine) (call.start machine) (call.returned machine).exceptions
  unconstructed : ∀ cause, call.op.method.signature = Signature.objectInit →
    (call.invocation machine).outcome = .internalFault cause →
    (∀ id, (call.run machine).2.heaps.get id = call.before.heaps.get id) ∧
      call.returned machine =
        { call.node with sideEffect := (call.invocation machine).sideEffect }
  placed : ∀ number type definition own inst new grown,
    call.op.placeholder (call.before.heaps.get call.node.activation.heap) call.node.frame =
      .ok (number, type) →
    ((machine.instantiator definition).run own).1 = .ok inst →
    (call.before.heaps.get call.node.activation.heap).alloc inst = .ok (new, grown) →
    ∃ old merged, (call.node.frame.peek (.index number)).handle? = some old ∧
      grown.forward old new = .ok merged

/-- Calls take nothing half-way if the collaborators do not. -/
theorem Call.allOrNothing {machine : Machine σ} (collaborators : machine.AllOrNothing)
    (call : Call σ) : call.AllOrNothing machine := by
  obtain ⟨alike, returned, route, strategy, node_eq⟩ :=
    call.op.route_execute machine call.node call.before
  have returned_eq : call.returned machine =
      { returned with sideEffect := (call.invocation machine).sideEffect } := node_eq
  constructor
  · intro count raised
    obtain ⟨heaps, exceptions, raises, some_, length, rfl⟩ :=
      InvokeOp.raised_of_route collaborators raised route
    rw [returned_eq]
    refine ⟨?_, ?_, ?_, rfl, ?_, length, raises⟩
    · intro id
      exact (heaps id).trans (by rw [alike.heaps])
    · intro register
      exact InvokeOp.get?_frame_planFor call.before call.node register
    · exact InvokeOp.assigned_frame_planFor call.before call.node
    · rw [← length]
      exact List.length_pos_iff.mpr some_
  · intro cause constructs failed
    have chosen : (call.op.planFor machine call.before call.node).strategy =
        .constructObject := InvokeOp.strategy_planFor_of_objectInit constructs
    obtain ⟨heaps, rfl⟩ := InvokeOp.unconstructed_of_route collaborators chosen failed route
    constructor
    · intro id
      exact (heaps id).trans (by rw [alike.heaps])
    · rw [returned_eq, InvokeOp.frame_planFor_of_objectInit constructs]
      rfl
  · intro number type definition own inst new grown waiting made allocated
    have isLive := collaborators.instantiator definition own inst made
    obtain ⟨old, merged, _, holds, forwarded, _⟩ :=
      InvokeOp.exists_placement waiting isLive allocated
    exact ⟨old, merged, holds, forwarded⟩

/-- With the collaborators that a machine has from the start nothing is taken half-way,
whatever the interpreter. -/
theorem Machine.calls_allOrNothing (policy : Policy) (interpreter : Interpreter σ) :
    let machine : Machine σ := { policy, interpreter }
    machine.AllOrNothing ∧ ∀ call : Call σ, call.AllOrNothing machine := by
  intro machine
  have collaborators : machine.AllOrNothing := allOrNothing policy interpreter
  constructor
  · exact collaborators
  · intro call
    exact call.allOrNothing collaborators

/-- A call that parses what is in a register, which holds `null`. -/
def parseNull : Call Unit where
  op :=
    { address := 0
      kind := { family := .static }
      method :=
        { signature := "Ljava/lang/Integer;->parseInt(Ljava/lang/String;)I"
          className := "Ljava/lang/Integer;"
          name := "parseInt"
          descriptor := "parseInt(Ljava/lang/String;)I"
          declaredTypes := [TypeName.string]
          returnType := TypeName.int
          flags := AccessFlags.isStatic }
      registers := [0]
      length_registers := by decide }
  node :=
    { address := 0
      activation :=
        { method := spin.method
          frame := (Frame.blank 1 0).assign (.index 0) ⟨.null, TypeName.string⟩
          heap := 0 } }
  before := { own := () }

/-- The call raises one exception and leaves the register as it was. -/
theorem Machine.calls_allOrNothing_parseNull :
    let machine : Machine Unit := {}
    (parseNull.invocation machine).outcome = .raised 1 ∧
      (parseNull.returned machine).exceptions.length = 1 ∧
      (parseNull.returned machine).frame.get? (.index 0) =
        parseNull.node.frame.get? (.index 0) := by
  intro machine
  have raises : (parseNull.invocation machine).outcome = .raised 1 := by decide
  obtain ⟨_, registers, _, _, _, length, _⟩ :=
    ((calls_allOrNothing {} (Interpreter.absent Unit)).2 parseNull).raised 1 raises
  exact ⟨raises, length, registers (.index 0)⟩

end Callsite
