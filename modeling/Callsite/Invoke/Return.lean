import Callsite.Graph.Consensus
import Callsite.Invoke.Invocation
import Callsite.Invoke.Op

/-!
# Returning from a call

What a call did is written to the frame of the caller: what became of the
receiver and what was returned, or for an interpreted constructor the object that
all its paths agree on.
-/

namespace Callsite.InvokeOp

variable {σ : Type} (machine : Machine σ) (op : InvokeOp)

/-- Write the receiver of a call back to the caller.  Another object takes the
place of the old one everywhere; the same object is written to the receiver's
register only, and not at all if it cannot change. -/
def returnReceiver (policy : Policy) (heap : Heap) (caller callee : Frame) :
    Except Error (Frame × Heap) :=
  match op.firstRegister? with
  | none => .ok (caller, heap)
  | some number =>
      let updated := callee.peekParameter 0
      if heap.isReplaced (caller.peek (.index number)) updated then
        caller.assignIdentity heap number updated
      else if policy.isImmutable updated.type then
        .ok (caller, heap)
      else
        .ok (caller.assign (.index number) updated, heap)

/-- Write what an emulated or reflected call did to the caller. -/
def returnFrom (target : Method) (callee : Frame) (node : Node) :
    AnalysisM σ (Outcome × Node) := do
  let heap ← AnalysisM.heap node.activation.heap
  let received : Except Error (Frame × Heap) :=
    if op.method.isStatic then .ok (node.frame, heap)
    else op.returnReceiver machine.policy heap node.frame callee
  match received with
  | .error cause =>
      AnalysisM.remark (.receiverLost target.signature op.address cause)
      return (.internalFault cause, node)
  | .ok (frame, heap) =>
      AnalysisM.setHeap node.activation.heap heap
      let frame :=
        if op.method.returnsVoid then frame
        else frame.assign .result (callee.peek .returned)
      return (.completed, node.withFrame frame)

/-- Write the object that an interpreted constructor made to the caller. -/
def returnConstructed (target : Method) (item : TypedValue) (node : Node) :
    AnalysisM σ (Outcome × Node) := do
  match op.firstRegister? with
  | none => return (.completed, node)
  | some number =>
      let heap ← AnalysisM.heap node.activation.heap
      match node.frame.assignIdentity heap number item with
      | .error cause =>
          AnalysisM.remark (.instanceLost target.signature cause)
          return (.internalFault cause, node)
      | .ok (frame, heap) =>
          AnalysisM.setHeap node.activation.heap heap
          return (.completed, node.withFrame frame)

/-- Write what an interpreted body did to the caller.  Its parameters start at
the given register. -/
def returnFromGraph (target : Method) (start : Nat) (graph : Graph) (node : Node) :
    AnalysisM σ (Outcome × Node) := do
  if !op.method.returnsVoid then
    let item ← graph.settle .returned
    return (.completed, node.withFrame (node.frame.assign .result item))
  else if Signature.isConstructor target.signature then
    let item ← graph.settle (.index start)
    op.returnConstructed target item node
  else
    return (.completed, node)

end Callsite.InvokeOp
