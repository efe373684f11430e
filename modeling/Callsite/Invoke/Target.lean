import Callsite.Catalog
import Callsite.Frame
import Callsite.Invoke.Op

/-!
# Targets of calls

A virtual call runs the method that the receiver's class declares under the
descriptor of the call, provided that there is a receiver, that the method may be
overridden, and that the class declares it with a body.  Any other call runs the
declared method.
-/

namespace Callsite

namespace Heap

/-- The type in which the target of a virtual call is looked for, if the value
of the receiver tells. -/
def dispatchType? (heap : Heap) (receiver : TypedValue) : Option TypeName :=
  match receiver.value with
  | .null => none
  | .unknown => none
  | .reference handle => (heap.typeOf handle).toOption
  | _ => some receiver.type

end Heap

namespace InvokeOp

variable (op : InvokeOp)

/-- The method that the class of the receiver declares with a body. -/
def override? (catalog : Catalog) (heap : Heap) (frame : Frame) : Option Method := do
  let receiver ← op.firstRegister?
  let type ← heap.dispatchType? (frame.peek (.index receiver))
  let definition ← (catalog.resolve type).toOption
  let method ← definition.method? op.method.descriptor
  if method.hasImplementation then some method else none

/-- The method that runs. -/
def target (catalog : Catalog) (heap : Heap) (frame : Frame) : Method :=
  if op.kind.isVirtual && !op.method.isFinal then
    (op.override? catalog heap frame).getD op.method
  else
    op.method

end InvokeOp

end Callsite
