import Callsite.Graph
import Callsite.Invoke.Invocation
import Callsite.Invoke.Op

/-!
# Construction of objects

A new object is allocated as a placeholder and comes to life when the constructor
of the root class is called on it: an instance of the placeholder's class is
created and takes the placeholder's place, in the heap and in every register that
holds it.
-/

namespace Callsite.InvokeOp

variable {σ : Type} (machine : Machine σ) (op : InvokeOp)

/-- The receiver's register and the class that its placeholder was allocated
for. -/
def placeholder (heap : Heap) (frame : Frame) : Except Error (Nat × TypeName) :=
  match op.firstRegister? with
  | none => .error (.malformed .constructionWithoutReceiver)
  | some number =>
      let item := frame.peek (.index number)
      match item.handle? with
      | none => .error (.malformed (.constructionOfNoObject item))
      | some handle =>
          match heap.get handle with
          | .error error => .error error
          | .ok (.uninitialized type) => .ok (number, type)
          | .ok _ => .error (.malformed (.constructionOfInitialized item))

/-- Create the object that the receiver's register is waiting for, and return
the caller's frame with it. -/
def completeReceiver (caller : Activation) : AnalysisM σ (Except Error Frame) := do
  let heap ← AnalysisM.heap caller.heap
  match op.placeholder heap caller.frame with
  | .error cause => return .error cause
  | .ok (number, type) =>
      match ← machine.newInstance type with
      | .error cause => return .error cause
      | .ok inst =>
          let (placed, heap) := caller.frame.placeInstance heap number type inst
          AnalysisM.setHeap caller.heap heap
          return placed

/-- Execute a call of the root class's constructor. -/
def construct (node : Node) : AnalysisM σ (Outcome × Node) := do
  match ← op.completeReceiver machine node.activation with
  | .ok frame => return (.completed, node.withFrame frame)
  | .error cause =>
      AnalysisM.remark (.constructionFailed op.address cause)
      return (.internalFault cause, node)

end Callsite.InvokeOp
