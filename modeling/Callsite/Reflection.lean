import Callsite.Error

/-!
# Failures of reflected calls

A method that is safe to run may be run for real, on the arguments that are
known.  Such a call either returns or fails in one of three ways, each of which
shows in the analyzed program as an exception.
-/

namespace Callsite

/-- Why a reflected call failed. -/
inductive ReflectionError where
  /-- The method threw an exception. -/
  | thrown (exceptionClass : TypeName) (message : String)
  /-- There is nothing to run for the method. -/
  | unsupported (signature : String)
  /-- An argument cannot be passed to the method. -/
  | invalidArgument (signature : String) (position : Nat)
  deriving DecidableEq

namespace ReflectionError

/-- The wording of a failure. -/
def message : ReflectionError → String
  | .thrown exceptionClass message => exceptionClass ++ ": " ++ message
  | .unsupported signature => "No reflection target for " ++ signature
  | .invalidArgument signature position =>
      "Argument " ++ Decimal.ofNat position ++ " of " ++ signature ++ " is not usable"

end ReflectionError

end Callsite
