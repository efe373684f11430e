import Callsite.Machine

/-!
# Strategies

How the target of a call is executed.  The first strategy that applies is taken.
-/

namespace Callsite

/-- How the target of a call is executed. -/
inductive Strategy where
  /-- The constructor of the root class completes a new object. -/
  | constructObject
  /-- The target is emulated, or safe to be run for real. -/
  | emulateOrReflect
  /-- The target belongs to the platform and must not be run. -/
  | unsafeFramework
  /-- There is no body to execute. -/
  | noImplementation (native : Bool)
  /-- The body of the target is executed. -/
  | localRecurse
  deriving DecidableEq, Repr

namespace Strategy

/-- The name of a strategy. -/
def text : Strategy → String
  | .constructObject => "construct-object"
  | .emulateOrReflect => "emulate-or-reflect"
  | .unsafeFramework => "unsafe-framework"
  | .noImplementation _ => "no-implementation"
  | .localRecurse => "local-recurse"

/-- The strategy for a target. -/
def classify {σ : Type} (machine : Machine σ) (registry : Registry)
    (target : Method) : Strategy :=
  let signature := target.signature
  if signature = Signature.objectInit then
    .constructObject
  else if machine.policy.isSafe signature || machine.emulator.canEmulate signature then
    .emulateOrReflect
  else if registry.isForbidden signature then
    .unsafeFramework
  else if !target.hasImplementation then
    .noImplementation target.isNative
  else
    .localRecurse

end Strategy

end Callsite
