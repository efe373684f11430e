import Callsite.Proofs.Frame.Substitution
import Callsite.Proofs.Invoke.Emulated
import Callsite.Proofs.Invoke.Forks
import Callsite.Proofs.Invoke.Session

/-!
# Receivers that become other objects

A constructor may leave another object in its receiver's place: the constructor of the root
class makes the instance that a placeholder waits for, a handler or the paths of a body may
make one of their own.  All three are substituted for the receiver in the same way, so that
every handle that denoted the receiver denotes what the receiver's register refers to then.
-/

namespace Callsite.InvokeOp

variable {σ : Type}

/-- The receiver's register waits for an instance of a class, and this is what creating it
comes to. -/
structure Instantiates (machine : Machine σ) (op : InvokeOp) (node : Node)
    (before : Analysis σ) (number : Nat) (type : TypeName) (definition : ClassDef)
    (made : Except Error Instance) (own : σ) : Prop where
  waiting : op.placeholder (before.heaps.get node.activation.heap) node.frame =
    .ok (number, type)
  known : before.registry.catalog.resolve type = .ok definition
  made : (machine.instantiator definition).run before.own = (made, own)

/-- How a call comes to an object that is to take the receiver's place: the heap right
before it does, and the object's handle there. -/
inductive Constructs (machine : Machine σ) (op : InvokeOp) (node : Node)
    (before : Analysis σ) : Heap → Handle → Prop where
  /-- The constructor of the root class allocates an instance. -/
  | object {number : Nat} {type : TypeName} {definition : ClassDef} {inst : Instance}
      {own : σ} {new : Handle} {left : Heap} :
      (op.planFor machine before node).strategy = .constructObject →
      op.Instantiates machine node before number type definition (.ok inst) own →
      (before.heaps.get node.activation.heap).alloc inst = .ok (new, left) →
      Constructs machine op node before left new
  /-- A handler leaves a reference in the receiver's parameter. -/
  | emulated {result : EmulationResult} {callee : Activation} {ran : Analysis σ}
      {new : Handle} :
      (op.planFor machine before node).strategy = .emulateOrReflect →
      op.method.isStatic = false →
      op.emulateFor machine node before = ((.ok result, callee), ran) →
      result.exceptions = [] →
      (callee.frame.peekParameter 0).handle? = some new →
      Constructs machine op node before (ran.heaps.get node.activation.heap) new
  /-- The paths through the body of a constructor agree on a reference. -/
  | interpreted {graph : Graph} {ran : Analysis σ} {new : Handle} :
      (op.planFor machine before node).strategy = .localRecurse →
      op.method.returnsVoid = true →
      Signature.isConstructor (op.planFor machine before node).target.signature = true →
      op.interpretFor machine node before = (.ok (some graph), ran) →
      (graph.consensusItem ran.registry.catalog
        (.index (op.spawnFor machine node before).frame.parameterStart)).handle? =
          some new →
      Constructs machine op node before (ran.heaps.get node.activation.heap) new

/-- What a call that had an object `new` to put in the place of its receiver, the object of
`old`, leaves of a heap `left` and of a node. -/
structure Propagated (number : Nat) (old new : Handle) (left heap : Heap)
    (node returned : Node) (outcome : Outcome) : Prop where
  /-- The handles of the old object are handles of the new one. -/
  merge : outcome = .completed → left.Merge heap old new
  /-- And the receiver's register refers to it. -/
  receiver : outcome = .completed → ∃ final,
    (returned.frame.peek (.index number)).handle? = some final ∧
      heap.resolve final = left.resolve new ∧
      ∀ handle, left.sameIdentity handle old = true → heap.sameIdentity handle final = true
  /-- A failure leaves everything as it was. -/
  heap_eq : ∀ cause, outcome = .internalFault cause → heap = left
  get?_eq : ∀ cause, outcome = .internalFault cause →
    ∀ register, returned.frame.get? register = node.frame.get? register

variable {machine : Machine σ} {op : InvokeOp} {node returned : Node}
  {before ran after : Analysis σ} {number : Nat} {old new : Handle} {left heap : Heap}
  {target : Method} {types : List TypeName} {outcome : Outcome} {sideEffect : SideEffect}
  {caller frame : Frame} {item : TypedValue}

namespace Propagated

/-- A failure that changed nothing. -/
theorem of_fault {cause : Error} (heap_eq : heap = left) :
    Propagated number old new left heap node node (.internalFault cause) where
  merge := nofun
  receiver := nofun
  heap_eq _ _ := heap_eq
  get?_eq _ _ _ := rfl

/-- A call that was given up on has nothing to put anywhere. -/
theorem of_gaveUp (gaveUp : outcome.gaveUp = true) :
    Propagated number old new left heap node returned outcome := by
  cases outcome with
  | completed => cases gaveUp
  | internalFault cause => cases gaveUp
  | assumedUnknown reason => exact ⟨nofun, nofun, nofun, nofun⟩
  | indeterminate cause => exact ⟨nofun, nofun, nofun, nofun⟩
  | raised count => cases gaveUp

/-- The receiver's register refers to the new object. -/
theorem of_merge {final : Handle} (merge : left.Merge heap old new)
    (refers : (returned.frame.peek (.index number)).handle? = some final)
    (denotes : heap.resolve final = left.resolve new) :
    Propagated number old new left heap node returned .completed where
  merge _ := merge
  receiver _ := by
    refine ⟨final, refers, denotes, ?_⟩
    intro handle same
    obtain ⟨slot, moved, atNew⟩ := Heap.sameIdentity_iff.mp (merge.sameIdentity same)
    rw [merge.resolve_new, ← denotes] at atNew
    apply Heap.sameIdentity_iff.mpr
    exact ⟨slot, moved, atNew⟩
  heap_eq := nofun
  get?_eq := nofun

/-- A receiver that was substituted by `assignIdentity`. -/
theorem of_assignIdentity (holds : (node.frame.peek (.index number)).handle? = some old)
    (refers : item.handle? = some new)
    (placed : node.frame.assignIdentity left number item = .ok (frame, heap))
    (kept : returned.frame.get? (.index number) = frame.get? (.index number)) :
    Propagated number old new left heap node returned .completed := by
  have substituted := Frame.substituted_assignIdentity holds refers placed
  apply of_merge substituted.merge
  · rw [Frame.peek_of_get? (kept.trans substituted.written)]
    exact refers
  · exact substituted.merge.resolve_new

/-- It matters only what the registers of the two nodes hold. -/
theorem congr {start last : Node}
    (propagated : Propagated number old new left heap start last outcome)
    (before_eq : ∀ register, start.frame.get? register = node.frame.get? register)
    (after_eq : returned.frame = last.frame) :
    Propagated number old new left heap node returned outcome where
  merge := propagated.merge
  receiver := by
    rw [after_eq]
    exact propagated.receiver
  heap_eq := propagated.heap_eq
  get?_eq cause fault register := by
    rw [after_eq, propagated.get?_eq cause fault, before_eq]

end Propagated

/-- Writing the receiver back to the caller makes it the object that it is for the callee,
whether the two are the same object or not. -/
theorem merge_of_received {callee : Frame} (hasReceiver : op.method.isStatic = false)
    (first : op.firstRegister? = some number)
    (holds : (caller.peek (.index number)).handle? = some old)
    (refers : (callee.peekParameter 0).handle? = some new)
    (received : op.received machine left caller callee = .ok (frame, heap)) :
    left.Merge heap old new ∧ ∃ final,
      (frame.peek (.index number)).handle? = some final ∧
        heap.resolve final = left.resolve new := by
  simp only [InvokeOp.received, hasReceiver, returnReceiver, first] at received
  split at received
  · cases ‹false = true›
  split at received
  · have substituted := Frame.substituted_assignIdentity holds refers received
    refine ⟨substituted.merge, new, ?_, substituted.merge.resolve_new⟩
    rw [Frame.peek_of_get? substituted.written]
    exact refers
  · next same =>
      have sameObject : left.resolve old = left.resolve new := by
        simp only [Heap.isReplaced, holds, refers, Bool.not_eq_true', Bool.not_eq_false] at same
        obtain ⟨slot, atOld, atNew⟩ := Heap.sameIdentity_iff.mp same
        exact atOld.trans atNew.symm
      split at received
      · cases received
        exact ⟨.of_resolve_eq sameObject, old, holds, sameObject⟩
      · cases received
        refine ⟨.of_resolve_eq sameObject, new, ?_, rfl⟩
        rw [Frame.peek_assign_self (Frame.has_of_handle? holds)]
        exact refers

/-- Returning from a handler that left a reference in the receiver's parameter. -/
theorem propagated_of_returned {callee : Frame} (hasReceiver : op.method.isStatic = false)
    (first : op.firstRegister? = some number)
    (holds : (node.frame.peek (.index number)).handle? = some old)
    (refers : (callee.peekParameter 0).handle? = some new)
    (return_ : op.Returned machine callee node ran outcome returned after) :
    Propagated number old new (ran.heaps.get node.activation.heap)
      (after.heaps.get node.activation.heap) node returned outcome := by
  cases return_ with
  | lost _ alike =>
      apply Propagated.of_fault
      rw [alike.heaps]
  | returned received =>
      obtain ⟨merge, final, held, denotes⟩ :=
        merge_of_received hasReceiver first holds refers received
      rw [HeapStore.get_set_self]
      apply Propagated.of_merge merge
      · rw [Node.frame_withFrame, peek_withReturned]
        · exact held
        · simp
      · exact denotes

/-- Returning from the body of a constructor whose paths agree on a reference. -/
theorem propagated_of_graphReturned {start : Nat} {graph : Graph}
    (isVoid : op.method.returnsVoid = true)
    (constructor_ : Signature.isConstructor target.signature = true)
    (first : op.firstRegister? = some number)
    (holds : (node.frame.peek (.index number)).handle? = some old)
    (refers : (graph.consensusItem ran.registry.catalog (.index start)).handle? = some new)
    (return_ : op.GraphReturned target start graph node ran outcome returned after) :
    Propagated number old new (ran.heaps.get node.activation.heap)
      (after.heaps.get node.activation.heap) node returned outcome := by
  cases return_ with
  | result returns _ =>
      rw [isVoid] at returns
      cases returns
  | nothing _ noReceiver _ =>
      rcases noReceiver with notConstructor | missing
      · rw [constructor_] at notConstructor
        cases notConstructor
      · rw [first] at missing
        cases missing
  | lost _ _ _ _ alike =>
      apply Propagated.of_fault
      rw [alike.heaps]
  | constructed _ _ firstAgain placed alike =>
      rw [first] at firstAgain
      cases firstAgain
      rw [alike.heaps, HeapStore.get_set_self]
      exact .of_assignIdentity holds refers placed rfl

/-- Putting an instance in the place of a placeholder once it is allocated. -/
theorem propagated_of_placed {type : TypeName} {inst : Instance} {grown : Heap}
    {placed : Except Error Frame}
    (holds : (node.frame.peek (.index number)).handle? = some old)
    (allocated : heap.alloc inst = .ok (new, left))
    (became : node.frame.placeInstance heap number type inst = (placed, grown)) :
    match placed with
    | .ok frame =>
        Propagated number old new left grown node (node.withFrame frame) .completed
    | .error cause => Propagated number old new left grown node node (.internalFault cause) := by
  simp only [Frame.placeInstance, allocated] at became
  split at became
  · next cause failed =>
      cases became
      exact .of_fault rfl
  · next frame merged substituted =>
      cases became
      exact .of_assignIdentity holds rfl substituted rfl

theorem Instantiates.unique {other : Nat} {type otherType : TypeName}
    {definition otherDefinition : ClassDef} {made otherMade : Except Error Instance}
    {own otherOwn : σ}
    (first : op.Instantiates machine node before number type definition made own)
    (second : op.Instantiates machine node before other otherType otherDefinition otherMade
      otherOwn) :
    other = number ∧ otherType = type ∧ otherMade = made := by
  have waiting := second.waiting
  rw [first.waiting] at waiting
  cases waiting
  have known := second.known
  rw [first.known] at known
  cases known
  have made := second.made
  rw [first.made] at made
  cases made
  exact ⟨rfl, rfl, rfl⟩

/-- A call whose target was interpreted is returned from, unless too many calls led to it. -/
theorem returned_of_interpreted {graph : Graph}
    (route : op.Route machine target types node before .localRecurse sideEffect outcome
      returned after)
    (interpretation : (machine.interpreter target
      (op.spawnTarget target types node.activation)).run before = (.ok (some graph), ran)) :
    outcome.gaveUp = true ∨
      op.GraphReturned target (op.spawnTarget target types node.activation).frame.parameterStart
        graph node ran outcome returned after := by
  cases route with
  | refused _ _ => exact .inl rfl
  | interpretationFailed _ _ _ => exact .inl rfl
  | gaveUp _ _ _ => exact .inl rfl
  | interpreted _ again return_ =>
      rw [interpretation] at again
      cases again
      exact .inr return_

/-- Completing an object for which an instance was allocated. -/
theorem propagated_of_instantiates {type : TypeName} {definition : ClassDef}
    {inst : Instance} {own : σ}
    (route : op.Route machine target types node before .constructObject sideEffect outcome
      returned after)
    (holds : (node.frame.peek (.index number)).handle? = some old)
    (instantiates : op.Instantiates machine node before number type definition (.ok inst) own)
    (allocated : (before.heaps.get node.activation.heap).alloc inst = .ok (new, left)) :
    Propagated number old new left (after.heaps.get node.activation.heap) node returned
      outcome := by
  cases route with
  | unconstructed failed _ =>
      rcases failed with noPlaceholder | ⟨_, _, waiting, unknown⟩
      · rw [instantiates.waiting] at noPlaceholder
        cases noPlaceholder
      · rw [instantiates.waiting] at waiting
        cases waiting
        rw [instantiates.known] at unknown
        cases unknown
  | notInstantiated waiting known failed _ =>
      cases (instantiates.unique ⟨waiting, known, failed⟩).2.2
  | notPlaced waiting known made became alike =>
      obtain ⟨rfl, rfl, sameInstance⟩ := instantiates.unique ⟨waiting, known, made⟩
      cases sameInstance
      rw [alike.heaps, HeapStore.get_set_self]
      exact propagated_of_placed holds allocated became
  | constructed waiting known made became =>
      obtain ⟨rfl, rfl, sameInstance⟩ := instantiates.unique ⟨waiting, known, made⟩
      cases sameInstance
      rw [HeapStore.get_set_self]
      exact propagated_of_placed holds allocated became
  | refused refusal _ => cases refusal

/-- An object is completed only with an instance that was allocated for it. -/
theorem instantiates_of_completed
    (route : op.Route machine target types node before .constructObject sideEffect .completed
      returned after) :
    ∃ number type definition inst own new left,
      op.Instantiates machine node before number type definition (.ok inst) own ∧
        (before.heaps.get node.activation.heap).alloc inst = .ok (new, left) := by
  cases route with
  | @constructed number type definition inst own frame merged waiting known made became =>
      obtain ⟨new, left, allocated, _⟩ := Frame.placeInstance_eq_ok.mp became
      exact ⟨number, type, definition, inst, own, new, left, ⟨waiting, known, made⟩,
        allocated⟩

/-! ## From the call on -/

/-- Planning a call changes nothing about the instance that it waits for. -/
theorem Instantiates.congr {start : Node} {type : TypeName} {definition : ClassDef}
    {made : Except Error Instance} {own : σ}
    (instantiates : op.Instantiates machine node before number type definition made own)
    (alike : before.Alike after) (heap_eq : start.activation.heap = node.activation.heap)
    (same : ∀ register, start.frame.get? register = node.frame.get? register) :
    op.Instantiates machine start after number type definition made own where
  waiting := by
    rw [alike.heaps, heap_eq, placeholder_congr same]
    exact instantiates.waiting
  known := by
    rw [alike.catalog]
    exact instantiates.known
  made := by
    rw [alike.own]
    exact instantiates.made

/-- What a call did with an object that it had for its receiver. -/
theorem propagated_execute (constructs : op.Constructs machine node before left new)
    (first : op.firstRegister? = some number)
    (holds : (node.frame.peek (.index number)).handle? = some old) :
    let run := (op.execute machine node).run before
    Propagated number old new left (run.2.heaps.get node.activation.heap) node run.1.2
      run.1.1.outcome := by
  intro run
  obtain ⟨alike, returned, route, _, node_eq⟩ := op.route_execute machine node before
  have reads (register : Register) : (op.planFor machine before node).frame.get? register =
      node.frame.get? register := get?_frame_planFor before node register
  have returned_eq : run.1.2.frame = returned.frame := by
    rw [node_eq]
    rfl
  have planned_holds : ((node.withFrame (op.planFor machine before node).frame).frame.peek
      (.index number)).handle? = some old := by
    rw [Node.frame_withFrame, peek_frame_planFor]
    exact holds
  suffices propagated : Propagated number old new left
      (run.2.heaps.get node.activation.heap)
      (node.withFrame (op.planFor machine before node).frame) returned run.1.1.outcome from
    propagated.congr reads returned_eq
  cases constructs with
  | object constructing instantiates allocated =>
      have same := (placeholder_eq_ok.mp instantiates.waiting).1
      rw [first] at same
      cases same
      rw [constructing] at route
      rw [← alike.heaps] at allocated
      exact propagated_of_instantiates route planned_holds
        (instantiates.congr alike rfl reads) allocated
  | emulated handled hasReceiver emulation quiet refers =>
      rw [handled] at route
      rcases returned_of_emulated route emulation quiet with ⟨_, gaveUp⟩ | return_
      · exact .of_gaveUp gaveUp
      · exact propagated_of_returned hasReceiver first planned_holds refers return_
  | interpreted recursed isVoid constructor_ interpretation refers =>
      rw [recursed] at route
      rcases returned_of_interpreted route interpretation with gaveUp | return_
      · exact .of_gaveUp gaveUp
      · exact propagated_of_graphReturned isVoid constructor_ first planned_holds refers
          return_

/-- A constructor of the root class that completes has an object for its receiver. -/
theorem constructs_of_completed
    (constructing : ((op.execute machine node).run before).1.1.strategy = .constructObject)
    (completed : ((op.execute machine node).run before).1.1.outcome = .completed) :
    ∃ left new number old, op.Constructs machine node before left new ∧
      op.firstRegister? = some number ∧
      (node.frame.peek (.index number)).handle? = some old := by
  obtain ⟨alike, returned, route, strategy, _⟩ := op.route_execute machine node before
  have planned := strategy.symm.trans constructing
  have reads (register : Register) : node.frame.get? register =
      (op.planFor machine before node).frame.get? register :=
    (get?_frame_planFor before node register).symm
  rw [completed, planned] at route
  obtain ⟨number, type, definition, inst, own, new, left, instantiated, allocated⟩ :=
    instantiates_of_completed route
  have instantiates : op.Instantiates machine node before number type definition (.ok inst)
      own := instantiated.congr alike.symm rfl reads
  obtain ⟨first, old, holds, _⟩ := placeholder_eq_ok.mp instantiates.waiting
  rw [alike.heaps] at allocated
  exact ⟨left, new, number, old, .object planned instantiates allocated, first, holds⟩

/-- A reference that is written to a register in place of another one is substituted for it,
in the register file and in the heap, and if that fails there is nothing written.  So after
a call that had an object to put in the place of its receiver, as every call that completes
an object has, all handles that denoted the receiver denote that object, which the
receiver's register refers to, and the other handles denote what they denoted. -/
theorem substituted_execute (machine : Machine σ) (op : InvokeOp) (node : Node)
    (before : Analysis σ) :
    (∀ (frame : Frame) (heap : Heap) (number : Nat) (item : TypedValue) (old new : Handle),
      (frame.peek (.index number)).handle? = some old → item.handle? = some new →
      (∀ after merged, frame.assignIdentity heap number item = .ok (after, merged) →
        frame.Substituted after heap merged number item old new) ∧
      ∀ cause, frame.assignIdentity heap number item = .error cause ↔
        frame.peek (.index number) ≠ item ∧ new ≠ old ∧
          heap.forward old new = .error cause) ∧
    let run := (op.execute machine node).run before
    (∀ left new number old, op.Constructs machine node before left new →
      op.firstRegister? = some number →
      (node.frame.peek (.index number)).handle? = some old →
      Propagated number old new left (run.2.heaps.get node.activation.heap) node run.1.2
        run.1.1.outcome) ∧
    (run.1.1.strategy = .constructObject → run.1.1.outcome = .completed →
      ∃ left new number old, op.Constructs machine node before left new ∧
        op.firstRegister? = some number ∧
        (node.frame.peek (.index number)).handle? = some old) := by
  refine ⟨?_, ?_, ?_⟩
  · intro frame heap number item old new holds refers
    constructor
    · intro after merged done
      exact Frame.substituted_assignIdentity holds refers done
    · intro cause
      exact Frame.assignIdentity_eq_error_iff holds refers
  · intro left new number old constructs first holds
    exact propagated_execute constructs first holds
  · intro constructing completed
    exact constructs_of_completed constructing completed

/-- The placeholder in two registers becomes the object that is allocated for it. -/
theorem substituted_rootConstruction :
    let machine : Machine Unit := {}
    let run := (rootConstruction.execute machine Session.waitingNode).run Session.waiting
    ∃ left, rootConstruction.Constructs machine Session.waitingNode Session.waiting left 1 ∧
      rootConstruction.firstRegister? = some 0 ∧
      (Session.waitingNode.frame.peek (.index 0)).handle? = some 0 ∧
      run.1.1.outcome = .completed ∧
      Propagated 0 0 1 left (run.2.heaps.get Session.waitingNode.activation.heap)
        Session.waitingNode run.1.2 run.1.1.outcome :=
  have constructs : rootConstruction.Constructs ({} : Machine Unit) Session.waitingNode
      Session.waiting
      { slots := #[.uninitialized "Lapp/Box;", .object "Lapp/Box;"], capacity := 2 } 1 :=
    .object rfl ⟨by rfl, by rfl, by rfl⟩ (by rfl)
  ⟨_, constructs, rfl, rfl, by decide +kernel,
    (substituted_execute {} rootConstruction Session.waitingNode Session.waiting).2.1 _ 1 0 0
      constructs rfl rfl⟩

end Callsite.InvokeOp
