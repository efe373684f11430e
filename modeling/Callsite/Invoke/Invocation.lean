import Callsite.Invoke.Strategy

/-!
# Outcomes of calls

What a call site came to: the strategy that was taken, the side effect, and
whether the call completed, raised, was not executed or failed.
-/

namespace Callsite

/-- Why a call was not executed. -/
inductive GiveUpReason where
  /-- The target is emulated or reflected, but an argument is unknown. -/
  | unknownArguments
  /-- The target belongs to the platform and must not be run. -/
  | unsafeFramework
  /-- The target has no body. -/
  | missingImplementation
  /-- The target is implemented outside the bytecode. -/
  | nativeMethod
  /-- Nested execution came to nothing. -/
  | recursionAborted
  deriving DecidableEq, Repr

namespace GiveUpReason

/-- The name of a reason. -/
def text : GiveUpReason → String
  | .unknownArguments => "unknown-arguments"
  | .unsafeFramework => "unsafe-framework"
  | .missingImplementation => "missing-implementation"
  | .nativeMethod => "native-method"
  | .recursionAborted => "recursion-aborted"

end GiveUpReason

/-- How a call ended. -/
inductive Outcome where
  /-- The call ran, and the caller sees its effects. -/
  | completed
  /-- The call did not run, and the caller's state was widened. -/
  | assumedUnknown (reason : GiveUpReason)
  /-- The call raised a number of exceptions, and the path ends. -/
  | raised (count : Nat)
  /-- The call failed, and the caller's state was widened. -/
  | indeterminate (cause : ExecutionError)
  /-- The effects of the call could not be given to the caller. -/
  | internalFault (cause : Error)
  deriving DecidableEq

/-- What a call site came to. -/
structure Invocation where
  strategy : Strategy
  sideEffect : SideEffect
  outcome : Outcome
  deriving DecidableEq

end Callsite
