import Callsite.Frame
import Callsite.Heap.Store
import Callsite.Text.Hexadecimal

/-!
# Activations

One activation of a method: its frame, the heap it works on and the calls that
led to it.
-/

namespace Callsite

/-- A call that is still going on: who calls, and from which address. -/
structure Caller where
  signature : String
  address : Nat
  deriving DecidableEq

namespace Caller

/-- The text of a caller in a stack trace. -/
def text (caller : Caller) : String :=
  caller.signature ++ " @" ++ Hexadecimal.address caller.address

end Caller

/-- One activation of a method. -/
structure Activation where
  method : Method
  frame : Frame
  heap : HeapId
  /-- The calls that led here, outermost first. -/
  callers : List Caller := []
  deriving DecidableEq

namespace Activation

variable (activation : Activation)

/-- The number of calls that led here. -/
def depth : Nat := activation.callers.length

/-- The activation as called from an address of another one. -/
def calledBy (caller : Activation) (address : Nat) : Activation :=
  { activation with
    callers := caller.callers ++ [⟨caller.method.signature, address⟩] }

/-- The activation with another frame. -/
def withFrame (frame : Frame) : Activation :=
  { activation with frame }

/-- The text of the call stack, innermost call first. -/
def stackTrace : String :=
  activation.callers.foldr (fun caller trace => trace ++ "\n  at " ++ caller.text)
    ("at " ++ activation.method.signature)

@[simp] theorem depth_calledBy (caller : Activation) (address : Nat) :
    (activation.calledBy caller address).depth = caller.depth + 1 := by
  simp [depth, calledBy]

@[simp] theorem frame_withFrame (frame : Frame) :
    (activation.withFrame frame).frame = frame := rfl

@[simp] theorem heap_withFrame (frame : Frame) :
    (activation.withFrame frame).heap = activation.heap := rfl

@[simp] theorem callers_withFrame (frame : Frame) :
    (activation.withFrame frame).callers = activation.callers := rfl

@[simp] theorem method_withFrame (frame : Frame) :
    (activation.withFrame frame).method = activation.method := rfl

end Activation

end Callsite
