import Callsite.Proofs.Frame.Substitution
import Callsite.Proofs.Invoke.Widening

/-!
# Footprints of calls

What a call may change in the caller's node.  Apart from the side effect it is some items
of the register file: after giving up those of the arguments and of the result, and after
running to the end those of the result, of the receiver and of the other registers that
held the receiver's handle.  A call that raises changes where the path goes on and no item,
and a call that fails changes nothing.
-/

namespace Callsite

variable {σ : Type}

namespace Frame

variable {frame after : Frame} {heap merged : Heap} {number : Nat} {item : TypedValue}
  {register : Register}

/-- A register that held the handle that a numbered register refers to is the only other
one that `assignIdentity` may write. -/
theorem get?_assignIdentity_of_not_holds (elsewhere : register ≠ .index number)
    (notHeld : ∀ handle, (frame.peek (.index number)).handle? = some handle →
      ¬ frame.Holds register handle)
    (done : frame.assignIdentity heap number item = .ok (after, merged)) :
    after.get? register = frame.get? register := by
  rcases assignIdentity_cases done with ⟨_, rfl, _⟩ | ⟨old, holds, _, rfl, _⟩
  · rw [get?_assign, if_neg]
    intro ⟨same, _⟩
    exact elsewhere same.symm
  · rw [get?_assign_assignAll_holders holds, if_neg]
    intro member
    exact notHeld old holds (mem_holders.mp member)

end Frame

namespace InvokeOp

/-- The first parameter's register, if the call has a receiver or is one of a
constructor. -/
def ReceiverRegister (op : InvokeOp) (target : Method) (number : Nat) : Prop :=
  op.firstRegister? = some number ∧
    (op.method.isStatic = false ∨ Signature.isConstructor target.signature = true)

/-- The registers of a caller that a call may leave with other items. -/
def MayWrite (op : InvokeOp) (target : Method) (caller : Frame) : Outcome → Register → Prop
  | .assumedUnknown _, register =>
      register = .result ∨ ∃ number ∈ op.registers, register = .index number
  | .indeterminate _, register =>
      register = .result ∨ ∃ number ∈ op.registers, register = .index number
  | .completed, register =>
      register = .result ∨ ∃ number, op.ReceiverRegister target number ∧
        (register = .index number ∨
          ∃ handle, (caller.peek (.index number)).handle? = some handle ∧
            caller.Holds register handle)
  | .raised _, _ => False
  | .internalFault _, _ => False

/-- What a call leaves alone in the node that it is executed against. -/
structure Leaves (op : InvokeOp) (target : Method) (node returned : Node)
    (outcome : Outcome) : Prop where
  address : returned.address = node.address
  method : returned.activation.method = node.activation.method
  callers : returned.activation.callers = node.activation.callers
  heap : returned.activation.heap = node.activation.heap
  returnSlot : returned.frame.returned = node.frame.returned
  items : ∀ register, ¬ op.MayWrite target node.frame outcome register →
    returned.frame.get? register = node.frame.get? register
  path : (∀ count, outcome ≠ .raised count) →
    returned.children = node.children ∧ returned.exceptions = node.exceptions

variable {machine : Machine σ} {op : InvokeOp} {target : Method} {types : List TypeName}
  {node returned : Node} {before after : Analysis σ} {strategy : Strategy}
  {sideEffect : SideEffect} {outcome : Outcome} {caller frame : Frame} {heap merged : Heap}
  {number : Nat} {register : Register} {item : TypedValue}

/-- No outcome lets a call write the return slot. -/
theorem not_mayWrite_returned (outcome : Outcome) :
    ¬ op.MayWrite target caller outcome .returned := by
  cases outcome with
  | assumedUnknown reason =>
      rintro (impossible | ⟨_, _, impossible⟩) <;> cases impossible
  | indeterminate cause =>
      rintro (impossible | ⟨_, _, impossible⟩) <;> cases impossible
  | completed =>
      rintro (impossible | ⟨_, _, impossible | ⟨_, _, notReturned, _⟩⟩)
      · cases impossible
      · cases impossible
      · exact notReturned rfl
  | raised count => exact id
  | internalFault cause => exact id

/-- What only writes a frame leaves the rest of the node alone. -/
theorem leaves_withFrame
    (items : ∀ register, ¬ op.MayWrite target node.frame outcome register →
      frame.get? register = node.frame.get? register) :
    op.Leaves target node (node.withFrame frame) outcome where
  address := rfl
  method := rfl
  callers := rfl
  heap := rfl
  returnSlot := items .returned (not_mayWrite_returned outcome)
  items := items
  path _ := ⟨rfl, rfl⟩

theorem leaves_self (outcome : Outcome) : op.Leaves target node node outcome :=
  leaves_withFrame fun _ _ => rfl

/-- Raising exceptions ends the path and leaves the activation alone. -/
theorem leaves_raise (exceptions : List Exception) :
    op.Leaves target node (node.raise exceptions) (.raised exceptions.length) where
  address := rfl
  method := rfl
  callers := rfl
  heap := rfl
  returnSlot := rfl
  items _ _ := rfl
  path quiet := absurd rfl (quiet exceptions.length)

/-! ## Calls that were given up on -/

theorem get?_widened_returned :
    (op.widened machine types node).frame.get? .returned = node.frame.get? .returned := by
  rw [widened, Node.frame_withFrame]
  simp only [GiveUp.widen]
  split
  · exact GiveUp.get?_widenArguments_of_slot (by simp) (op.registers.zip types) node.frame
  · rw [Frame.get?_assign, if_neg (by simp)]
    exact GiveUp.get?_widenArguments_of_slot (by simp) (op.registers.zip types) node.frame

/-- What giving up does not overwrite keeps its item. -/
theorem get?_widened_of_not_overwrites
    (kept : ¬ op.Overwrites machine.policy types node.frame register) :
    (op.widened machine types node).frame.get? register = node.frame.get? register := by
  cases register with
  | index number =>
      cases present : node.frame.has (.index number) with
      | true =>
          rw [get?_widened_index machine op types present, Classical.not_not.mp kept]
          rfl
      | false =>
          have stillAbsent : (op.widened machine types node).frame.has (.index number) =
              false := (has_widened _).trans present
          rw [Frame.get?_of_not_has present, Frame.get?_of_not_has stillAbsent]
  | result =>
      rw [get?_widened_result, if_pos]
      cases isVoid : op.method.returnsVoid with
      | true => rfl
      | false => exact absurd isVoid kept
  | returned => exact get?_widened_returned

/-- Giving up overwrites registers of arguments and the result slot only. -/
theorem eq_result_or_mem_of_overwrites {policy : Policy}
    (overwritten : op.Overwrites policy types caller register) :
    register = .result ∨ ∃ number ∈ op.registers, register = .index number := by
  cases register with
  | index number =>
      right
      obtain ⟨type, member⟩ := List.exists_mem_of_ne_nil _ overwritten
      obtain ⟨⟨passed, type⟩, listed, widens⟩ := List.mem_filterMap.mp member
      simp only at widens
      split at widens
      · next here =>
          refine ⟨number, ?_, rfl⟩
          rw [← here.1]
          exact (List.of_mem_zip listed).1
      · cases widens
  | result => exact .inl rfl
  | returned => cases overwritten

/-- A call that was given up on leaves all but its arguments and its result alone. -/
theorem leaves_widened (gaveUp : outcome.gaveUp = true) :
    op.Leaves target node (op.widened machine types node) outcome := by
  apply leaves_withFrame
  intro register notWritten
  apply get?_widened_of_not_overwrites
  intro overwritten
  have allowed := eq_result_or_mem_of_overwrites overwritten
  cases outcome with
  | assumedUnknown reason => exact notWritten allowed
  | indeterminate cause => exact notWritten allowed
  | completed => cases gaveUp
  | raised count => cases gaveUp
  | internalFault cause => cases gaveUp

/-! ## Calls that ran to their end -/

/-- Writing another object to the receiver's register is within the footprint of a call
that completes. -/
theorem get?_assignIdentity_of_not_mayWrite (receiver : op.ReceiverRegister target number)
    (done : caller.assignIdentity heap number item = .ok (frame, merged))
    (notWritten : ¬ op.MayWrite target caller .completed register) :
    frame.get? register = caller.get? register := by
  apply Frame.get?_assignIdentity_of_not_holds ?_ ?_ done
  · intro same
    exact notWritten (.inr ⟨number, receiver, .inl same⟩)
  · intro handle refers holds
    exact notWritten (.inr ⟨number, receiver, .inr ⟨handle, refers, holds⟩⟩)

/-- What becomes of a receiver: nothing, or its register is written, with the others that
hold its handle or alone. -/
theorem received_cases (target : Method) {callee : Frame}
    (received : op.received machine heap caller callee = .ok (frame, merged)) :
    frame = caller ∨ ∃ number, op.ReceiverRegister target number ∧
      (caller.assignIdentity heap number (callee.peekParameter 0) = .ok (frame, merged) ∨
        frame = caller.assign (.index number) (callee.peekParameter 0)) := by
  rw [InvokeOp.received] at received
  split at received
  · cases received
    exact .inl rfl
  · next notStatic =>
      simp only [returnReceiver] at received
      split at received
      · cases received
        exact .inl rfl
      · next number first =>
          have receiver : op.ReceiverRegister target number :=
            ⟨first, .inl (Bool.not_eq_true _ ▸ notStatic)⟩
          split at received
          · exact .inr ⟨number, receiver, .inl received⟩
          · split at received
            · cases received
              exact .inl rfl
            · cases received
              exact .inr ⟨number, receiver, .inr rfl⟩

theorem get?_received_of_not_mayWrite {callee : Frame}
    (received : op.received machine heap caller callee = .ok (frame, merged))
    (notWritten : ¬ op.MayWrite target caller .completed register) :
    frame.get? register = caller.get? register := by
  rcases received_cases target received with rfl | ⟨number, receiver, replaced | rfl⟩
  · rfl
  · exact get?_assignIdentity_of_not_mayWrite receiver replaced notWritten
  · rw [Frame.get?_assign, if_neg]
    rintro ⟨same, _⟩
    exact notWritten (.inr ⟨number, receiver, .inl same.symm⟩)

/-- A result is written to the result slot only. -/
theorem get?_assign_result_of_not_mayWrite (item : TypedValue)
    (notWritten : ¬ op.MayWrite target caller .completed register) :
    (frame.assign .result item).get? register = frame.get? register := by
  rw [Frame.get?_assign, if_neg]
  intro ⟨same, _⟩
  exact notWritten (.inl same.symm)

theorem leaves_of_returned {callee : Frame}
    (return_ : op.Returned machine callee node before outcome returned after) :
    op.Leaves target node returned outcome := by
  cases return_ with
  | lost _ _ => exact leaves_self _
  | returned received =>
      apply leaves_withFrame
      intro register notWritten
      have kept := get?_received_of_not_mayWrite received notWritten
      rw [withReturned]
      split
      · exact kept
      · rw [get?_assign_result_of_not_mayWrite _ notWritten]
        exact kept

theorem leaves_of_graphReturned {start : Nat} {graph : Graph}
    (return_ : op.GraphReturned target start graph node before outcome returned after) :
    op.Leaves target node returned outcome := by
  cases return_ with
  | result _ _ =>
      apply leaves_withFrame
      intro register notWritten
      exact get?_assign_result_of_not_mayWrite _ notWritten
  | nothing _ _ _ => exact leaves_self _
  | lost _ _ _ _ _ => exact leaves_self _
  | constructed _ constructor_ first placed _ =>
      apply leaves_withFrame
      intro register notWritten
      exact get?_assignIdentity_of_not_mayWrite ⟨first, .inr constructor_⟩ placed notWritten

/-! ## All calls -/

/-- Whichever way a call goes, it stays within its footprint. -/
theorem leaves_of_route
    (constructs : strategy = .constructObject →
      Signature.isConstructor target.signature = true)
    (route : op.Route machine target types node before strategy sideEffect outcome returned
      after) :
    op.Leaves target node returned outcome := by
  cases route with
  | unconstructed _ _ => exact leaves_self _
  | notInstantiated _ _ _ _ => exact leaves_self _
  | notPlaced _ _ _ _ _ => exact leaves_self _
  | constructed waiting _ _ became =>
      have first := (placeholder_eq_ok.mp waiting).1
      obtain ⟨new, grown, _, placed⟩ := Frame.placeInstance_eq_ok.mp became
      apply leaves_withFrame
      intro register notWritten
      exact get?_assignIdentity_of_not_mayWrite ⟨first, .inr (constructs rfl)⟩ placed
        notWritten
  | refused _ _ => exact leaves_widened rfl
  | emulationFailed _ _ _ _ => exact leaves_widened rfl
  | emulationRaised _ _ _ _ => exact leaves_raise _
  | emulated _ _ _ _ return_ => exact leaves_of_returned return_
  | reflectionRaised _ _ _ _ _ => exact leaves_raise _
  | reflected _ _ _ _ return_ => exact leaves_of_returned return_
  | passedThrough _ _ return_ => exact leaves_of_returned return_
  | interpretationFailed _ _ _ => exact leaves_widened rfl
  | gaveUp _ _ _ => exact leaves_widened rfl
  | interpreted _ _ return_ => exact leaves_of_graphReturned return_

/-- An object is completed only by the constructor of the root class. -/
theorem isConstructor_of_constructObject
    (constructing : (op.planFor machine before node).strategy = .constructObject) :
    Signature.isConstructor (op.planFor machine before node).target.signature = true := by
  have rootConstructor : (op.planFor machine before node).target.signature =
      Signature.objectInit := by
    by_cases root : op.method.signature = Signature.objectInit
    · rw [planFor, planIn, if_pos root]
      exact root
    · rw [planFor_of_ordinary root] at constructing ⊢
      exact Strategy.classify_eq_constructObject constructing
  rw [rootConstructor]
  decide +kernel

/-- Only what a register file holds matters for what may be written to it. -/
theorem mayWrite_congr {other : Frame}
    (same : ∀ register, other.get? register = caller.get? register) (outcome : Outcome)
    (register : Register) :
    op.MayWrite target other outcome register ↔ op.MayWrite target caller outcome register := by
  cases outcome with
  | completed => simp only [MayWrite, Frame.Holds, Frame.peek, same]
  | assumedUnknown reason => exact Iff.rfl
  | indeterminate cause => exact Iff.rfl
  | raised count => exact Iff.rfl
  | internalFault cause => exact Iff.rfl

/-- Every call, whatever it comes to, stays within its footprint. -/
theorem leaves_execute (machine : Machine σ) (op : InvokeOp) (node : Node)
    (before : Analysis σ) :
    let run := (op.execute machine node).run before
    op.Leaves (op.planFor machine before node).target node run.1.2 run.1.1.outcome := by
  intro run
  obtain ⟨_, returned, route, _, node_eq⟩ := op.route_execute machine node before
  have leaves := leaves_of_route isConstructor_of_constructObject route
  have reads (register : Register) : (op.planFor machine before node).frame.get? register =
      node.frame.get? register := get?_frame_planFor before node register
  have items (register : Register)
      (notWritten : ¬ op.MayWrite (op.planFor machine before node).target node.frame
        run.1.1.outcome register) :
      returned.frame.get? register = node.frame.get? register := by
    rw [← reads]
    apply leaves.items
    rw [Node.frame_withFrame, mayWrite_congr reads]
    exact notWritten
  rw [node_eq]
  exact {
    address := leaves.address
    method := leaves.method
    callers := leaves.callers
    heap := leaves.heap
    returnSlot := items .returned (not_mayWrite_returned _)
    items
    path := leaves.path }

end InvokeOp

end Callsite
