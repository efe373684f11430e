import Callsite.Invoke.Op
import Callsite.Policy
import Callsite.Remark

/-!
# Giving up on a call

A call that is not executed may have changed every object it was passed and may
have returned anything.  So each argument becomes unknown, unless there was no
object or it is of a type that cannot be changed, and so does the result.  A
constructor changes the object it is passed whatever its type.
-/

namespace Callsite

/-- What becomes of an argument of a call that is not executed. -/
inductive ArgumentFate where
  /-- There is no object. -/
  | untouched
  /-- Values of the parameter's type cannot be changed. -/
  | keptForParameter
  /-- Values of the argument's own type cannot be changed. -/
  | keptForArgument
  /-- The argument may have been changed. -/
  | widened
  deriving DecidableEq, Repr

namespace ArgumentFate

/-- What becomes of an argument that is passed as a type. -/
def of (policy : Policy) (initializing : Bool) (item : TypedValue) (type : TypeName) :
    ArgumentFate :=
  if item.isNull then .untouched
  else if initializing then .widened
  else if policy.isImmutable type then .keptForParameter
  else if item.isImmutable || policy.isImmutable item.type then .keptForArgument
  else .widened

/-- What there is to say about it. -/
def remarks (fate : ArgumentFate) (item : TypedValue) (type : TypeName) : List Remark :=
  match fate with
  | .untouched => []
  | .keptForParameter => [.immutableParameter type]
  | .keptForArgument => [.immutableArgument type item.type]
  | .widened => [.widenedArgument type]

/-- The caller's frame after it. -/
def apply (fate : ArgumentFate) (frame : Frame) (number : Nat) (type : TypeName) :
    Frame :=
  match fate with
  | .widened => frame.poke (.index number) (TypedValue.unknown type)
  | _ => frame

end ArgumentFate

namespace GiveUp

/-- Widen the arguments in the caller's registers one after another. -/
def widenArguments (policy : Policy) (initializing : Bool) :
    List (Nat × TypeName) → Frame → Frame × List Remark
  | [], frame => (frame, [])
  | (number, type) :: rest, frame =>
      let item := frame.peek (.index number)
      let fate := ArgumentFate.of policy initializing item type
      let (widened, remarks) :=
        widenArguments policy initializing rest
          (fate.apply (frame.recordRead (.index number)) number type)
      (widened, fate.remarks item type ++ remarks)

/-- The caller's frame after a call of which nothing is known, and what there is
to say about it. -/
def widen (policy : Policy) (op : InvokeOp) (types : List TypeName) (frame : Frame) :
    Frame × List Remark :=
  let (widened, remarks) :=
    widenArguments policy (Signature.isConstructor op.method.signature)
      (op.registers.zip types) frame
  let widened :=
    if op.method.returnsVoid then widened
    else widened.assign .result (TypedValue.unknown op.method.returnType)
  (widened, remarks)

end GiveUp

end Callsite
