import Callsite.Proofs.Graph.Consensus
import Callsite.Proofs.Invoke.Route
import Callsite.Proofs.Machine.Tidy

/-!
# Calls leave no dangling references

On a tidy machine a call from a closed node edits the heap and leaves the node
closed, whichever route it takes.  The object of a receiver or of a constructed
instance is never lost on the way back, since in closed frames every object can be
replaced: only the construction of a new object can fail.
-/

namespace Callsite

variable {σ : Type} {machine : Machine σ} {op : InvokeOp} {heap : Heap} {frame : Frame}

namespace Graph

/-- Where all nodes are closed, so is what is assumed of a register. -/
theorem closedIn_consensusItem {graph : Graph}
    (closed : ∀ node ∈ graph.nodes, node.frame.ClosedIn heap) (catalog : Catalog)
    (register : Register) : (graph.consensusItem catalog register).ClosedIn heap := by
  intro handle refers
  obtain ⟨node, member, held⟩ := exists_terminating_of_handle?_consensusItem refers
  exact closed node (mem_nodes_of_mem_terminating member) register _ held handle refers

end Graph

namespace GiveUp

theorem closedIn_widenArguments (policy : Policy) (initializing : Bool)
    (arguments : List (Nat × TypeName)) (closed : frame.ClosedIn heap) :
    (widenArguments policy initializing arguments frame).1.ClosedIn heap := by
  induction arguments generalizing frame with
  | nil => exact closed
  | cons argument rest ih =>
      obtain ⟨number, type⟩ := argument
      have read := closed.recordRead (.index number)
      simp only [widenArguments]
      apply ih
      cases ArgumentFate.of policy initializing (frame.peek (.index number)) type with
      | widened => exact read.poke (.index number) (TypedValue.closedIn_unknown type heap)
      | untouched => exact read
      | keptForParameter => exact read
      | keptForArgument => exact read

theorem closedIn_widen (policy : Policy) (op : InvokeOp) (types : List TypeName)
    (closed : frame.ClosedIn heap) : (widen policy op types frame).1.ClosedIn heap := by
  have widened := closedIn_widenArguments policy
    (Signature.isConstructor op.method.signature) (op.registers.zip types) closed
  simp only [widen]
  split
  · exact widened
  · exact widened.assign .result (TypedValue.closedIn_unknown _ heap)

end GiveUp

namespace Frame.ClosedIn

variable (closed : frame.ClosedIn heap)
include closed

theorem calleeOf (op : InvokeOp) {caller : Activation} (types : List TypeName)
    (isFrame : caller.frame = frame) : (op.calleeOf types caller).frame.ClosedIn heap := by
  subst isFrame
  exact closed.pass (closedIn_blank _ _ heap) op.registers types

theorem spawnTarget (op : InvokeOp) {caller : Activation} (target : Method)
    (types : List TypeName) (isFrame : caller.frame = frame) :
    (op.spawnTarget target types caller).frame.ClosedIn heap := by
  subst isFrame
  exact closed.pass (closedIn_blank _ _ heap) op.registers types

/-- Placing a new object edits the heap, and where it succeeds the frame stays
closed. -/
theorem placeInstance {number : Nat} {type : TypeName} {inst : Instance}
    {placed : Except Error Frame} {grown : Heap} (isLive : inst.isLive = true)
    (done : frame.placeInstance heap number type inst = (placed, grown)) :
    heap.Edits grown ∧ ∀ written, placed = .ok written → written.ClosedIn grown := by
  simp only [Frame.placeInstance] at done
  split at done
  · cases done
    refine ⟨.refl, ?_⟩
    intro written impossible
    cases impossible
  · next created larger allocated =>
      have edits : heap.Edits larger := .single (.alloc isLive allocated)
      have itemClosed : (TypedValue.reference created type).ClosedIn larger :=
        TypedValue.closedIn_reference.mpr
          ⟨created, Heap.resolve_alloc_self isLive allocated⟩
      have wider := closed.edits edits
      split at done
      · cases done
        refine ⟨edits, ?_⟩
        intro written impossible
        cases impossible
      · next merged assigned =>
          cases done
          obtain ⟨further, writtenClosed⟩ := wider.assignIdentity itemClosed assigned
          refine ⟨edits.trans further, ?_⟩
          intro written same
          cases same
          exact writtenClosed

/-- The receiver is never lost: it can be written back, and the frame stays
closed. -/
theorem received (machine : Machine σ) (op : InvokeOp) {callee : Frame}
    (calleeClosed : callee.ClosedIn heap) :
    ∃ written merged, op.received machine heap frame callee = .ok (written, merged) ∧
      heap.Edits merged ∧ written.ClosedIn merged := by
  simp only [InvokeOp.received]
  split
  · exact ⟨frame, heap, rfl, .refl, closed⟩
  · simp only [InvokeOp.returnReceiver]
    split
    · exact ⟨frame, heap, rfl, .refl, closed⟩
    · next number _ =>
        have updatedClosed := calleeClosed.peekParameter 0
        split
        · obtain ⟨written, merged, done⟩ := closed.exists_assignIdentity number updatedClosed
          exact ⟨written, merged, done, closed.assignIdentity updatedClosed done⟩
        · split
          · exact ⟨frame, heap, rfl, .refl, closed⟩
          · exact ⟨_, heap, rfl, .refl, closed.assign (.index number) updatedClosed⟩

theorem withReturned {callee : Frame} (calleeClosed : callee.ClosedIn heap) :
    (op.withReturned frame callee).ClosedIn heap := by
  simp only [InvokeOp.withReturned]
  split
  · exact closed
  · exact closed.assign .result (calleeClosed.peek .returned)

end Frame.ClosedIn

/-- From one state to another the heap of a number was only edited, and the node
uses that heap and is closed in it. -/
structure Node.Settled (node : Node) (id : HeapId) (before after : Analysis σ) : Prop where
  edits : (before.heaps.get id).Edits (after.heaps.get id)
  heap_eq : node.activation.heap = id
  closed : node.frame.ClosedIn (after.heaps.get id)

namespace InvokeOp

variable {target : Method} {types : List TypeName} {node returned : Node} {id : HeapId}
  {before after : Analysis σ} {outcome : Outcome}

/-- A call that did not change the heap leaves the node settled. -/
theorem settled_of_heaps (heaps : after.heaps = before.heaps)
    (heap_eq : node.activation.heap = id)
    (closed : node.frame.ClosedIn (before.heaps.get id)) : node.Settled id before after := by
  refine ⟨?_, heap_eq, ?_⟩
  · rw [heaps]
  · rw [heaps]
    exact closed

/-- A node that a call without a fault leaves settled is as it should be. -/
theorem settled_of_faultless {strategy : Strategy} (settled : returned.Settled id before after)
    (faultless : ∀ cause, outcome ≠ .internalFault cause) :
    returned.Settled id before after ∧
      ∀ cause, outcome = .internalFault cause → strategy = .constructObject := by
  refine ⟨settled, ?_⟩
  intro cause faulted
  exact absurd faulted (faultless cause)

theorem settled_of_completed {strategy : Strategy}
    (finished : returned.Settled id before after ∧ outcome = .completed) :
    returned.Settled id before after ∧
      ∀ cause, outcome = .internalFault cause → strategy = .constructObject := by
  obtain ⟨settled, rfl⟩ := finished
  exact settled_of_faultless settled (by simp)

theorem settled_widened {ran : Analysis σ}
    (edits : (before.heaps.get id).Edits (ran.heaps.get id))
    (alike : ran.Alike after) (heap_eq : node.activation.heap = id)
    (closed : node.frame.ClosedIn (before.heaps.get id)) :
    (op.widened machine types node).Settled id before after := by
  rw [← alike.heaps] at edits
  exact ⟨edits, heap_eq, GiveUp.closedIn_widen machine.policy op types (closed.edits edits)⟩

/-- Returning from a call that ran on parameters succeeds. -/
theorem settled_of_returned {callee : Frame} {ran : Analysis σ}
    (edits : (before.heaps.get id).Edits (ran.heaps.get id))
    (heap_eq : node.activation.heap = id)
    (closed : node.frame.ClosedIn (before.heaps.get id))
    (calleeClosed : callee.ClosedIn (ran.heaps.get id))
    (return_ : op.Returned machine callee node ran outcome returned after) :
    returned.Settled id before after ∧ outcome = .completed := by
  subst heap_eq
  obtain ⟨written, merged, received, further, writtenClosed⟩ :=
    (closed.edits edits).received machine op calleeClosed
  cases return_ with
  | lost failed =>
      rw [failed] at received
      cases received
  | returned done =>
      rw [received] at done
      cases done
      refine ⟨⟨?_, rfl, ?_⟩, rfl⟩
      · rw [HeapStore.get_set_self]
        exact edits.trans further
      · rw [HeapStore.get_set_self]
        exact writtenClosed.withReturned (calleeClosed.edits further)

/-- Returning from an interpreted body succeeds. -/
theorem settled_of_graphReturned {start : Nat} {graph : Graph} {ran : Analysis σ}
    (edits : (before.heaps.get id).Edits (ran.heaps.get id))
    (heap_eq : node.activation.heap = id)
    (closed : node.frame.ClosedIn (before.heaps.get id))
    (nodesClosed : ∀ inner ∈ graph.nodes, inner.frame.ClosedIn (ran.heaps.get id))
    (return_ : op.GraphReturned target start graph node ran outcome returned after) :
    returned.Settled id before after ∧ outcome = .completed := by
  subst heap_eq
  have nowClosed := closed.edits edits
  have itemClosed (register : Register) :=
    Graph.closedIn_consensusItem nodesClosed ran.registry.catalog register
  cases return_ with
  | result _ alike =>
      rw [← alike.heaps] at edits nowClosed itemClosed
      exact ⟨⟨edits, rfl, nowClosed.assign .result (itemClosed .returned)⟩, rfl⟩
  | nothing _ _ alike =>
      rw [← alike.heaps] at edits nowClosed
      exact ⟨⟨edits, rfl, nowClosed⟩, rfl⟩
  | @lost number cause _ _ _ _ failed _ =>
      obtain ⟨written, merged, done⟩ :=
        nowClosed.exists_assignIdentity number (itemClosed (.index start))
      rw [failed] at done
      cases done
  | @constructed number _ merged _ _ _ _ done alike =>
      obtain ⟨further, writtenClosed⟩ :=
        nowClosed.assignIdentity (itemClosed (.index start)) done
      have placed : after.heaps.get node.activation.heap = merged := by
        rw [alike.heaps]
        exact ran.heaps.get_set_self node.activation.heap merged
      refine ⟨⟨?_, rfl, ?_⟩, rfl⟩
      · rw [placed]
        exact edits.trans further
      · rw [placed]
        exact writtenClosed

/-- Whichever route a call takes, the heap is only edited and the caller's node stays
closed; and the effects of a call that did not construct an object always reach the
caller. -/
theorem settled_of_route {strategy : Strategy} {sideEffect : SideEffect}
    (tidy : machine.Tidy) (sound : (before.heaps.get id).Sound)
    (heap_eq : node.activation.heap = id)
    (closed : node.frame.ClosedIn (before.heaps.get id))
    (route : op.Route machine target types node before strategy sideEffect outcome returned
      after) :
    returned.Settled id before after ∧
      ∀ cause, outcome = .internalFault cause → strategy = .constructObject := by
  subst heap_eq
  have calleeClosed := closed.calleeOf op types rfl
  have targetClosed := closed.spawnTarget op target types rfl
  cases route with
  | unconstructed _ alike =>
      exact ⟨settled_of_heaps alike.heaps rfl closed, fun _ _ => rfl⟩
  | notInstantiated _ _ _ alike =>
      exact ⟨settled_of_heaps alike.heaps rfl closed, fun _ _ => rfl⟩
  | @notPlaced _ _ definition inst _ _ grown _ _ _ instantiated failed alike =>
      have isLive := tidy.instantiator definition before.own inst (by rw [instantiated])
      obtain ⟨edits, _⟩ := closed.placeInstance isLive failed
      have placed : after.heaps.get node.activation.heap = grown := by
        rw [alike.heaps]
        exact before.heaps.get_set_self node.activation.heap grown
      refine ⟨⟨?_, rfl, ?_⟩, fun _ _ => rfl⟩
      · rw [placed]
        exact edits
      · rw [placed]
        exact closed.edits edits
  | @constructed _ _ definition inst _ frame grown _ _ instantiated done =>
      have isLive := tidy.instantiator definition before.own inst (by rw [instantiated])
      obtain ⟨edits, writtenClosed⟩ := closed.placeInstance isLive done
      refine ⟨⟨?_, rfl, ?_⟩, fun _ _ => rfl⟩
      · rw [HeapStore.get_set_self]
        exact edits
      · rw [HeapStore.get_set_self]
        exact writtenClosed frame rfl
  | refused _ alike =>
      exact settled_of_faultless (settled_widened .refl alike rfl closed) (by simp)
  | @emulationFailed cause callee ran _ _ _ emulation alike =>
      obtain ⟨edits, _⟩ := tidy.emulator (op.calleeOf types node.activation)
        target.signature before sound calleeClosed
      rw [emulation] at edits
      exact settled_of_faultless (settled_widened edits alike rfl closed) (by simp)
  | @emulationRaised result callee _ _ _ emulation _ =>
      obtain ⟨edits, _⟩ := tidy.emulator (op.calleeOf types node.activation)
        target.signature before sound calleeClosed
      rw [emulation] at edits
      exact settled_of_faultless ⟨edits, rfl, closed.edits edits⟩ (by simp)
  | @emulated result callee _ _ ran _ _ _ emulation _ return_ =>
      obtain ⟨edits, ranClosed⟩ := tidy.emulator (op.calleeOf types node.activation)
        target.signature before sound calleeClosed
      rw [emulation] at edits ranClosed
      exact settled_of_completed
        (settled_of_returned edits rfl closed ranClosed return_)
  | @reflectionRaised cause frame heap own _ _ _ _ reflection alike =>
      obtain ⟨edits, _⟩ := tidy.reflector target (op.calleeOf types node.activation).frame
        (before.heaps.get node.activation.heap) before.own sound calleeClosed
      rw [reflection] at edits
      have left : after.heaps.get node.activation.heap = heap := by
        rw [alike.heaps]
        exact before.heaps.get_set_self node.activation.heap heap
      rw [← left] at edits
      exact settled_of_faultless ⟨edits, rfl, closed.edits edits⟩ (by simp)
  | @reflected frame heap own _ _ _ _ _ _ reflection return_ =>
      obtain ⟨edits, ranClosed⟩ := tidy.reflector target
        (op.calleeOf types node.activation).frame
        (before.heaps.get node.activation.heap) before.own sound calleeClosed
      rw [reflection] at edits ranClosed
      have left := before.heaps.get_set_self node.activation.heap heap
      rw [← left] at edits ranClosed
      exact settled_of_completed (settled_of_returned edits rfl closed ranClosed return_)
  | passedThrough _ _ return_ =>
      exact settled_of_completed
        (settled_of_returned .refl rfl closed calleeClosed return_)
  | @interpretationFailed cause ran _ _ interpretation alike =>
      obtain ⟨edits, _⟩ := tidy.interpreter target
        (op.spawnTarget target types node.activation) before sound targetClosed
      rw [interpretation] at edits
      exact settled_of_faultless (settled_widened edits alike rfl closed) (by simp)
  | @gaveUp ran _ _ interpretation alike =>
      obtain ⟨edits, _⟩ := tidy.interpreter target
        (op.spawnTarget target types node.activation) before sound targetClosed
      rw [interpretation] at edits
      exact settled_of_faultless (settled_widened edits alike rfl closed) (by simp)
  | @interpreted graph _ _ ran _ _ interpretation return_ =>
      obtain ⟨edits, graphClosed⟩ := tidy.interpreter target
        (op.spawnTarget target types node.activation) before sound targetClosed
      rw [interpretation] at edits graphClosed
      exact settled_of_completed
        (settled_of_graphReturned edits rfl closed
          (fun inner member => (graphClosed graph rfl inner member).2) return_)

end InvokeOp

end Callsite
