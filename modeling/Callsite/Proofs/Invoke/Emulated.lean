import Callsite.Proofs.Invoke.Layout
import Callsite.Proofs.Invoke.Widening

/-!
# Calls of emulated methods

A call whose target is emulated runs the handler on its arguments, unless one of them is
unknown, and then the caller sees the receiver and the result.
-/

namespace Callsite

variable {σ : Type}

/-- Only emulated methods have an emulation that succeeds. -/
theorem Emulator.canEmulate_of_run {emulator : Emulator σ} {activation callee : Activation}
    {signature : String} {result : EmulationResult} {before after : Analysis σ}
    (ran : (emulator.emulate activation signature).run before = ((.ok result, callee), after)) :
    emulator.canEmulate signature = true := by
  rw [Emulator.emulate] at ran
  rw [Emulator.canEmulate]
  cases found : emulator.find? signature with
  | none =>
      rw [found] at ran
      cases ran
  | some method => rfl

namespace InvokeOp

variable (machine : Machine σ) (op : InvokeOp) (node : Node) (before : Analysis σ)

/-- The activation that the target of a call from a node is emulated in. -/
def calleeFor : Activation :=
  op.calleeOf (op.planFor machine before node).types
    (node.withFrame (op.planFor machine before node).frame).activation

/-- What emulating the target of a call from a node comes to. -/
def emulateFor : (Except Error EmulationResult × Activation) × Analysis σ :=
  (machine.emulator.emulate (op.calleeFor machine node before)
    (op.planFor machine before node).target.signature).run
      ((op.plan machine node.activation).run before).2

variable {machine op node before} {target : Method} {types : List TypeName}
  {after ran : Analysis σ} {returned : Node} {sideEffect : SideEffect} {outcome : Outcome}
  {callee : Activation} {result : EmulationResult}

/-- A call whose target is emulated without exceptions is returned from, unless an unknown
argument keeps it from being emulated. -/
theorem returned_of_emulated
    (route : op.Route machine target types node before .emulateOrReflect sideEffect outcome
      returned after)
    (emulation : (machine.emulator.emulate (op.calleeOf types node.activation)
      target.signature).run before = ((.ok result, callee), ran))
    (quiet : result.exceptions = []) :
    Arguments.allKnown op.method (op.calleeOf types node.activation).frame = false ∧
        outcome.gaveUp = true ∨
      op.Returned machine callee.frame node ran outcome returned after := by
  have emulated := Emulator.canEmulate_of_run emulation
  cases route with
  | refused refusal _ =>
      cases refusal with
      | unknownArguments unknown _ => exact .inl ⟨unknown, rfl⟩
  | emulationFailed _ _ failed _ =>
      rw [emulation] at failed
      cases failed
  | emulationRaised _ _ raised loud =>
      rw [emulation] at raised
      cases raised
      exact absurd quiet loud
  | emulated _ _ again _ return_ =>
      rw [emulation] at again
      cases again
      exact .inr return_
  | reflectionRaised notEmulated _ _ _ _ =>
      rw [emulated] at notEmulated
      cases notEmulated
  | reflected notEmulated _ _ _ _ =>
      rw [emulated] at notEmulated
      cases notEmulated
  | passedThrough notEmulated _ _ =>
      rw [emulated] at notEmulated
      cases notEmulated

/-! ## Arguments of the handler -/

/-- For an ordinary call, what the registers held is passed as the reconciled types. -/
theorem calleeFor_of_ordinary (ordinary : op.method.signature ≠ Signature.objectInit) :
    op.calleeFor machine node before =
      op.calleeOf (op.argumentTypes before (node.frame.recordReads op.registers))
        (node.withFrame (node.frame.recordReads op.registers)).activation := by
  rw [calleeFor, planFor_of_ordinary ordinary, argumentTypes_recordReads]

/-- Of narrow parameters each holds the argument of its position. -/
theorem peekParameter_calleeFor (ordinary : op.method.signature ≠ Signature.objectInit)
    (narrow : ∀ type ∈ op.method.parameterTypes, TypeName.isWide type = false)
    {index number offset : Nat} {declared : TypeName}
    (passed : op.registers[index]? = some number)
    (placed : op.method.offsets[index]? = some (offset, declared))
    (typed : op.method.parameterTypes[index]? = some declared) :
    (op.calleeFor machine node before).frame.peekParameter offset =
      (node.frame.peek (.index number)).marshal
        (before.registry.catalog.reconcile (node.frame.peek (.index number)) declared) := by
  rw [calleeFor_of_ordinary ordinary]
  have sizes := registerSize_argumentTypes_of_reconcile op
    (node.frame.recordReads op.registers) fun type member item =>
      before.registry.catalog.registerSize_reconcile_of_narrow (narrow type member) item
  obtain ⟨type, argumentType, found⟩ := peekParameter_calleeOf_of_sizes
    (node.withFrame (node.frame.recordReads op.registers)).activation sizes passed placed
  rw [getElem?_argumentTypes op before _ passed typed] at argumentType
  cases argumentType
  refine found.trans ?_
  simp only [Node.withFrame, Activation.frame_withFrame, Frame.peek, Frame.get?_recordReads]

/-- The arguments that the handler asks for are those of the call. -/
theorem argument_calleeFor (ordinary : op.method.signature ≠ Signature.objectInit)
    (narrow : ∀ type ∈ op.method.parameterTypes, TypeName.isWide type = false)
    {index number : Nat} {declared : TypeName}
    (passed : op.registers[index]? = some number)
    (typed : op.method.parameterTypes[index]? = some declared) (heap : Heap) :
    (JavaLang.EmulatedCall.mk op.method (op.calleeFor machine node before).frame
      heap).argument index =
      (node.frame.peek (.index number)).marshal
        (before.registry.catalog.reconcile (node.frame.peek (.index number)) declared) := by
  obtain ⟨offset, placed⟩ := Method.exists_getElem?_place typed 0
  simp only [JavaLang.EmulatedCall.argument, Method.offsets, placed]
  exact peekParameter_calleeFor ordinary narrow passed placed typed

/-- The handler runs if everything that is passed to it is known. -/
theorem allKnown_calleeFor (ordinary : op.method.signature ≠ Signature.objectInit)
    (narrow : ∀ type ∈ op.method.parameterTypes, TypeName.isWide type = false)
    (known : ∀ (index number : Nat) (declared : TypeName),
      op.registers[index]? = some number →
      op.method.parameterTypes[index]? = some declared →
      ((node.frame.peek (.index number)).marshal (before.registry.catalog.reconcile
        (node.frame.peek (.index number)) declared)).isUnknown = false) :
    Arguments.allKnown op.method (op.calleeFor machine node before).frame = true := by
  apply List.all_eq_true.mpr
  rintro ⟨offset, declared⟩ member
  obtain ⟨index, placed⟩ := List.getElem?_of_mem member
  have typed : op.method.parameterTypes[index]? = some declared := by
    rw [← Method.map_snd_place 0 op.method.parameterTypes, List.getElem?_map]
    exact congrArg (Option.map Prod.snd) placed
  have inside : index < op.registers.length := by
    rw [op.length_registers]
    exact (List.getElem?_eq_some_iff.mp typed).1
  have passed := List.getElem?_eq_getElem inside
  simp only [peekParameter_calleeFor ordinary narrow passed placed typed,
    known index _ declared passed typed, Bool.not_false]

/-! ## The whole call -/

/-- A method that is not dispatched and is emulated is to be emulated. -/
theorem strategy_planFor_of_canEmulate (ordinary : op.method.signature ≠ Signature.objectInit)
    (undispatched : op.targetFor before node = op.method)
    (canEmulate : machine.emulator.canEmulate op.method.signature = true) :
    (op.planFor machine before node).strategy = .emulateOrReflect := by
  rw [planFor_of_ordinary ordinary, undispatched]
  simp only [Strategy.classify, if_neg ordinary, canEmulate, Bool.or_true, if_true]

/-- Returning completes if the receiver can be written back. -/
theorem completed_of_received {callee frame : Frame} {heap : Heap}
    (received : op.received machine (ran.heaps.get node.activation.heap) node.frame callee =
      .ok (frame, heap))
    (return_ : op.Returned machine callee node ran outcome returned after) :
    outcome = .completed ∧ returned = node.withFrame (op.withReturned frame callee) ∧
      after = { ran with heaps := ran.heaps.set node.activation.heap heap } := by
  cases return_ with
  | lost failed _ =>
      rw [received] at failed
      cases failed
  | returned again =>
      rw [received] at again
      cases again
      exact ⟨rfl, rfl, rfl⟩

/-- A call completes if its emulation succeeds and the receiver can be written back. -/
theorem execute_of_emulated {frame : Frame} {heap : Heap}
    (handled : (op.planFor machine before node).strategy = .emulateOrReflect)
    (known : Arguments.allKnown op.method (op.calleeFor machine node before).frame = true)
    (emulation : op.emulateFor machine node before = ((.ok result, callee), ran))
    (quiet : result.exceptions = [])
    (received : op.received machine (ran.heaps.get node.activation.heap)
      (op.planFor machine before node).frame callee.frame = .ok (frame, heap)) :
    let run := (op.execute machine node).run before
    run.1.1.outcome = .completed ∧
      run.1.2.activation.heap = node.activation.heap ∧
      run.1.2.frame = op.withReturned frame callee.frame ∧
      run.2 = { ran with heaps := ran.heaps.set node.activation.heap heap } := by
  intro run
  obtain ⟨_, returned, route, _, node_eq⟩ := op.route_execute machine node before
  rw [handled] at route
  rcases returned_of_emulated route emulation quiet with ⟨unknown, _⟩ | return_
  · rw [calleeFor] at known
    rw [known] at unknown
    cases unknown
  · obtain ⟨completed, returned_eq, after_eq⟩ := completed_of_received received return_
    rw [returned_eq] at node_eq
    refine ⟨completed, ?_, ?_, after_eq⟩
    · rw [node_eq]
      rfl
    · rw [node_eq]
      rfl

end InvokeOp

end Callsite
