import Callsite.Proofs.Invoke.GivingUp
import Callsite.Proofs.Invoke.Session

/-!
# What calls record

A frame records which registers were read and which were written, and a call updates both
records.  Whatever it comes to, it reads the registers of its arguments, unless it runs the
constructor of the root class, and it counts no other register as written than the result slot
and the registers of the receiver.  If it completes, it also counts all registers as written
that it leaves with other items (`InvokeOp.recorded_execute`).
-/

namespace Callsite

variable {σ : Type}

namespace Frame

variable {frame middle after : Frame} {heap merged : Heap} {number : Nat} {item : TypedValue}
  {register : Register} {allowed : Register → Prop}

/-- A frame was written to and not read: the registers that it leaves with other items count
as written, and only those that were allowed to be are written for the first time. -/
structure WritesRecorded (allowed : Register → Prop) (frame after : Frame) : Prop where
  read : after.read = frame.read
  kept : ∀ register ∈ frame.assigned, register ∈ after.assigned
  changed : ∀ register, after.get? register ≠ frame.get? register →
    register ∈ after.assigned
  fresh : ∀ register ∈ after.assigned, register ∈ frame.assigned ∨ allowed register

namespace WritesRecorded

theorem refl (frame : Frame) : WritesRecorded allowed frame frame where
  read := rfl
  kept _ written := written
  changed _ other := absurd rfl other
  fresh _ written := .inl written

theorem trans (first : WritesRecorded allowed frame middle)
    (second : WritesRecorded allowed middle after) : WritesRecorded allowed frame after where
  read := second.read.trans first.read
  kept register written := second.kept register (first.kept register written)
  changed register other := by
    by_cases unchanged : after.get? register = middle.get? register
    · rw [unchanged] at other
      exact second.kept register (first.changed register other)
    · exact second.changed register unchanged
  fresh register written := by
    rcases second.fresh register written with earlier | isAllowed
    · exact first.fresh register earlier
    · exact .inr isAllowed

/-- Writing a register records just that, if the frame has it. -/
theorem assign (frame : Frame) (item : TypedValue) (isAllowed : allowed register) :
    WritesRecorded allowed frame (frame.assign register item) where
  read := frame.read_assign register item
  kept _ written := frame.mem_assigned_assign.mpr (.inr written)
  changed other differs := by
    rw [get?_assign] at differs
    split at differs
    · next written => exact frame.mem_assigned_assign.mpr (.inl ⟨written.1.symm, written.2⟩)
    · exact absurd rfl differs
  fresh other written := by
    rcases frame.mem_assigned_assign.mp written with ⟨rfl, _⟩ | earlier
    · exact .inr isAllowed
    · exact .inl earlier

theorem assignAll (registers : List Register) (frame : Frame) (item : TypedValue)
    (areAllowed : ∀ register ∈ registers, allowed register) :
    WritesRecorded allowed frame (frame.assignAll registers item) := by
  induction registers generalizing frame with
  | nil => exact refl frame
  | cons head rest ih =>
      have first : WritesRecorded allowed frame (frame.assign head item) :=
        assign frame item (areAllowed head List.mem_cons_self)
      exact first.trans (ih _ fun register member =>
        areAllowed register (List.mem_cons_of_mem head member))

/-- Writing another object to a register writes the registers that held the old one too. -/
theorem assignIdentity (isAllowed : allowed (.index number))
    (holders : ∀ handle register, (frame.peek (.index number)).handle? = some handle →
      frame.Holds register handle → allowed register)
    (done : frame.assignIdentity heap number item = .ok (after, merged)) :
    WritesRecorded allowed frame after := by
  rcases assignIdentity_cases done with ⟨_, rfl, _⟩ | ⟨old, holds, _, rfl, _⟩
  · exact assign frame item isAllowed
  · have aliases : WritesRecorded allowed frame
        (frame.assignAll (frame.holders old) item) :=
      assignAll _ frame item fun register member =>
        holders old register holds (mem_holders.mp member)
    exact aliases.trans (assign _ item isAllowed)

end WritesRecorded

theorem mem_read_recordReads (frame : Frame) (numbers : List Nat) :
    register ∈ (frame.recordReads numbers).read ↔
      register ∈ frame.read ∨ ∃ number ∈ numbers, register = .index number := by
  induction numbers generalizing frame with
  | nil => simp [recordReads]
  | cons number rest ih =>
      calc register ∈ ((frame.recordRead (.index number)).recordReads rest).read
        _ ↔ register ∈ (frame.recordRead (.index number)).read ∨
            ∃ number ∈ rest, register = .index number := ih _
        _ ↔ (register = .index number ∨ register ∈ frame.read) ∨
            ∃ number ∈ rest, register = .index number := by
          rw [recordRead, RegisterSet.mem_insert]
        _ ↔ _ := by rw [List.exists_mem_cons_iff, or_assoc, or_left_comm]

theorem read_poke (frame : Frame) (register : Register) (item : TypedValue) :
    (frame.poke register item).read = frame.read := by
  cases register <;> rfl

end Frame

/-- Widening the arguments reads their registers. -/
theorem GiveUp.mem_read_widenArguments {policy : Policy} {initializing : Bool}
    {register : Register} (arguments : List (Nat × TypeName)) (frame : Frame) :
    register ∈ (widenArguments policy initializing arguments frame).1.read ↔
      register ∈ frame.read ∨ ∃ argument ∈ arguments, register = .index argument.1 := by
  induction arguments generalizing frame with
  | nil => simp [widenArguments]
  | cons argument rest ih =>
      obtain ⟨number, type⟩ := argument
      have reads (fate : ArgumentFate) :
          (fate.apply (frame.recordRead (.index number)) number type).read =
            frame.read.insert (.index number) := by
        cases fate with
        | widened => exact Frame.read_poke _ _ _
        | untouched => rfl
        | keptForParameter => rfl
        | keptForArgument => rfl
      simp only [widenArguments]
      rw [ih, reads, RegisterSet.mem_insert, List.exists_mem_cons_iff, or_assoc,
        or_left_comm]

namespace InvokeOp

variable {machine : Machine σ} {op : InvokeOp} {target : Method} {types : List TypeName}
  {node returned : Node} {before after : Analysis σ} {strategy : Strategy}
  {sideEffect : SideEffect} {outcome : Outcome} {caller frame : Frame} {heap merged : Heap}
  {number : Nat} {register : Register} {item : TypedValue}

/-- The register holds an argument of the call. -/
def Passes (op : InvokeOp) (register : Register) : Prop :=
  ∃ number ∈ op.registers, register = .index number

/-- What executing the target of a call records in the caller's frame. -/
structure Records (op : InvokeOp) (target : Method) (strategy : Strategy) (outcome : Outcome)
    (caller after : Frame) : Prop where
  readKept : ∀ register ∈ caller.read, register ∈ after.read
  readFresh : ∀ register ∈ after.read, register ∈ caller.read ∨
    strategy ≠ .constructObject ∧ op.Passes register
  kept : ∀ register ∈ caller.assigned, register ∈ after.assigned
  changed : outcome = .completed → ∀ register,
    after.get? register ≠ caller.get? register → register ∈ after.assigned
  fresh : ∀ register ∈ after.assigned, register ∈ caller.assigned ∨
    op.MayWrite target caller .completed register

/-- Writes within the footprint of a call that completes may be recorded by any call. -/
theorem records_of_writesRecorded
    (writes : caller.WritesRecorded (op.MayWrite target caller .completed) frame) :
    op.Records target strategy outcome caller frame where
  readKept _ earlier := writes.read ▸ earlier
  readFresh _ reads := .inl (writes.read ▸ reads)
  kept := writes.kept
  changed _ := writes.changed
  fresh := writes.fresh

theorem records_self (caller : Frame) : op.Records target strategy outcome caller caller :=
  records_of_writesRecorded (.refl caller)

/-! ## Calls that were given up on -/

/-- A call that was given up on reads its arguments and counts the result as written. -/
theorem records_widened (gaveUp : outcome.gaveUp = true)
    (ordinary : strategy ≠ .constructObject) :
    op.Records target strategy outcome node.frame (op.widened machine types node).frame := by
  have reads (register : Register) : register ∈ (op.widened machine types node).frame.read ↔
      register ∈ node.frame.read ∨
        ∃ argument ∈ op.registers.zip types, register = .index argument.1 := by
    rw [← GiveUp.mem_read_widenArguments, widened, Node.frame_withFrame]
    simp only [GiveUp.widen]
    split
    · exact Iff.rfl
    · rw [Frame.read_assign]
  constructor
  case readKept =>
    intro register earlier
    exact (reads register).mpr (.inl earlier)
  case readFresh =>
    intro register read
    rcases (reads register).mp read with earlier | ⟨⟨number, type⟩, argument, rfl⟩
    · exact .inl earlier
    · exact .inr ⟨ordinary, number, (List.of_mem_zip argument).1, rfl⟩
  case kept =>
    intro register written
    exact mem_assigned_widened.mpr (.inl written)
  case changed =>
    rintro rfl
    cases gaveUp
  case fresh =>
    intro register written
    rcases mem_assigned_widened.mp written with earlier | ⟨isResult, _⟩
    · exact .inl earlier
    · exact .inr (.inl isResult)

theorem ordinary_of_refusal {reason : GiveUpReason}
    (refusal : op.Refusal machine target types node.activation strategy reason) :
    strategy ≠ .constructObject := by
  cases refusal <;> exact nofun

/-! ## Calls that ran to their end -/

theorem writesRecorded_assignIdentity (receiver : op.ReceiverRegister target number)
    (done : caller.assignIdentity heap number item = .ok (frame, merged)) :
    caller.WritesRecorded (op.MayWrite target caller .completed) frame :=
  .assignIdentity (.inr ⟨number, receiver, .inl rfl⟩)
    (fun handle _ refers holds => .inr ⟨number, receiver, .inr ⟨handle, refers, holds⟩⟩) done

theorem writesRecorded_received {callee : Frame}
    (received : op.received machine heap caller callee = .ok (frame, merged)) :
    caller.WritesRecorded (op.MayWrite target caller .completed) frame := by
  rcases received_cases target received with rfl | ⟨number, receiver, replaced | rfl⟩
  · exact .refl frame
  · exact writesRecorded_assignIdentity receiver replaced
  · exact .assign caller _ (.inr ⟨number, receiver, .inl rfl⟩)

theorem records_of_returned {callee : Frame}
    (return_ : op.Returned machine callee node before outcome returned after) :
    op.Records target strategy outcome node.frame returned.frame := by
  cases return_ with
  | lost _ _ => exact records_self _
  | returned received =>
      have receives : node.frame.WritesRecorded
          (op.MayWrite target node.frame .completed) _ := writesRecorded_received received
      apply records_of_writesRecorded
      rw [Node.frame_withFrame, withReturned]
      split
      · exact receives
      · exact receives.trans (.assign _ _ (.inl rfl))

theorem records_of_graphReturned {start : Nat} {graph : Graph}
    (return_ : op.GraphReturned target start graph node before outcome returned after) :
    op.Records target strategy outcome node.frame returned.frame := by
  cases return_ with
  | result _ _ =>
      apply records_of_writesRecorded
      rw [Node.frame_withFrame]
      exact .assign _ _ (.inl rfl)
  | nothing _ _ _ => exact records_self _
  | lost _ _ _ _ _ => exact records_self _
  | constructed _ constructor_ first placed _ =>
      exact records_of_writesRecorded
        (writesRecorded_assignIdentity ⟨first, .inr constructor_⟩ placed)

/-! ## All calls -/

/-- Whichever way a call goes, it records the reads and writes of that way. -/
theorem records_of_route
    (constructs : strategy = .constructObject →
      Signature.isConstructor target.signature = true)
    (route : op.Route machine target types node before strategy sideEffect outcome returned
      after) :
    op.Records target strategy outcome node.frame returned.frame := by
  cases route with
  | unconstructed _ _ => exact records_self _
  | notInstantiated _ _ _ _ => exact records_self _
  | notPlaced _ _ _ _ _ => exact records_self _
  | constructed waiting _ _ became =>
      have first := (placeholder_eq_ok.mp waiting).1
      obtain ⟨new, grown, _, placed⟩ := Frame.placeInstance_eq_ok.mp became
      exact records_of_writesRecorded
        (writesRecorded_assignIdentity ⟨first, .inr (constructs rfl)⟩ placed)
  | refused refusal _ => exact records_widened rfl (ordinary_of_refusal refusal)
  | emulationFailed _ _ _ _ => exact records_widened rfl nofun
  | emulationRaised _ _ _ _ => exact records_self _
  | emulated _ _ _ _ return_ => exact records_of_returned return_
  | reflectionRaised _ _ _ _ _ => exact records_self _
  | reflected _ _ _ _ return_ => exact records_of_returned return_
  | passedThrough _ _ return_ => exact records_of_returned return_
  | interpretationFailed _ _ _ => exact records_widened rfl nofun
  | gaveUp _ _ _ => exact records_widened rfl nofun
  | interpreted _ _ return_ => exact records_of_graphReturned return_

/-- Planning a call reads its arguments, unless it is one of the constructor of the root
class. -/
theorem mem_read_planFor :
    register ∈ (op.planFor machine before node).frame.read ↔
      register ∈ node.frame.read ∨
        op.method.signature ≠ Signature.objectInit ∧ op.Passes register := by
  by_cases root : op.method.signature = Signature.objectInit
  · rw [frame_planFor_of_objectInit root]
    simp [root]
  · rw [planFor_of_ordinary root]
    simp only [Frame.mem_read_recordReads, Passes, ne_eq, root, not_false_eq_true, true_and]

/-- What a call records in the frame of its caller, whatever it comes to.  It reads the
registers of its arguments and no other ones, but the constructor of the root class, which is
run on its receiver without any reading, reads none.  It counts no register as written but the
result slot, the receiver's register and the registers that hold the receiver's handle, and
if it completes, then it does so with all registers that it leaves with other items. -/
theorem recorded_execute (machine : Machine σ) (op : InvokeOp) (node : Node)
    (before : Analysis σ) :
    let plan := op.planFor machine before node
    let run := (op.execute machine node).run before
    let after := run.1.2.frame
    (∀ register, register ∈ after.read ↔ register ∈ node.frame.read ∨
      op.method.signature ≠ Signature.objectInit ∧ op.Passes register) ∧
    (∀ register ∈ node.frame.assigned, register ∈ after.assigned) ∧
    (run.1.1.outcome = .completed → ∀ register,
      after.get? register ≠ node.frame.get? register → register ∈ after.assigned) ∧
    ∀ register ∈ after.assigned, register ∈ node.frame.assigned ∨
      op.MayWrite plan.target node.frame .completed register := by
  intro plan run after
  obtain ⟨_, returned, route, _, node_eq⟩ := op.route_execute machine node before
  have records := records_of_route isConstructor_of_constructObject route
  have after_eq : after = returned.frame := by
    simp only [after, run]
    rw [node_eq]
    rfl
  rw [← after_eq, Node.frame_withFrame] at records
  -- The plan's frame differs from the caller's in what was read only.
  have items (register : Register) : plan.frame.get? register = node.frame.get? register :=
    get?_frame_planFor before node register
  have assigned : plan.frame.assigned = node.frame.assigned :=
    assigned_frame_planFor before node
  refine ⟨?_, ?_, ?_, ?_⟩
  · intro register
    constructor
    · intro read
      rcases records.readFresh register read with planned | ⟨ordinary, passes⟩
      · exact mem_read_planFor.mp planned
      · refine .inr ⟨?_, passes⟩
        intro root
        exact ordinary (strategy_planFor_of_objectInit root)
    · intro read
      exact records.readKept register (mem_read_planFor.mpr read)
  · intro register written
    exact records.kept register (assigned ▸ written)
  · intro completed register differs
    apply records.changed completed
    rwa [items]
  · intro register written
    rcases records.fresh register written with earlier | may
    · exact .inl (assigned ▸ earlier)
    · exact .inr ((mayWrite_congr items .completed register).mp may)

/-- The placeholder's other register is written too. -/
theorem recorded_execute_rootConstruction :
    let machine : Machine Unit := {}
    let node := Session.waitingNode
    let plan := rootConstruction.planFor machine Session.waiting node
    let run := (rootConstruction.execute machine node).run Session.waiting
    let after := run.1.2.frame
    (run.1.1.outcome = .completed ∧
      after.get? (.index 1) ≠ node.frame.get? (.index 1)) ∧
    (∀ register, register ∈ after.read ↔ register ∈ node.frame.read ∨
      rootConstruction.method.signature ≠ Signature.objectInit ∧
        rootConstruction.Passes register) ∧
    (∀ register ∈ node.frame.assigned, register ∈ after.assigned) ∧
    (run.1.1.outcome = .completed → ∀ register,
      after.get? register ≠ node.frame.get? register → register ∈ after.assigned) ∧
    ∀ register ∈ after.assigned, register ∈ node.frame.assigned ∨
      rootConstruction.MayWrite plan.target node.frame .completed register :=
  ⟨by decide +kernel, recorded_execute {} rootConstruction Session.waitingNode Session.waiting⟩

/-- The constructor of the root class does not record that it reads its receiver. -/
theorem unread_receiver_rootConstruction :
    ¬ ∀ (machine : Machine Unit) (op : InvokeOp) (node : Node) (before : Analysis Unit)
        (register : Register),
      register ∈ ((op.execute machine node).run before).1.2.frame.read ↔
        register ∈ node.frame.read ∨ op.Passes register := by
  intro reads
  have unread : ((rootConstruction.execute ({} : Machine Unit) Session.waitingNode).run
      Session.waiting).1.2.frame.read = ∅ := by
    decide +kernel
  have receiver := (reads {} rootConstruction Session.waitingNode Session.waiting
    (.index 0)).mpr (.inr ⟨0, List.mem_singleton_self 0, rfl⟩)
  rw [unread] at receiver
  exact RegisterSet.not_mem_empty _ receiver

end InvokeOp

end Callsite
