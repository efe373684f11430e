import Callsite.Reflection

/-!
# Exceptions of the analyzed program

An exception is data: it is attached to the step of the program that raises it
and ends the path through that step.
-/

namespace Callsite

/-- An exception that the analyzed program raises. -/
structure Exception where
  className : TypeName
  message : Option String := none
  deriving DecidableEq

namespace Exception

/-- The text of an exception. -/
def text (exception : Exception) : String :=
  match exception.message with
  | some message => exception.className.sourceName ++ ": " ++ message
  | none => exception.className.sourceName

/-- The exception that the failure of a reflected call shows as. -/
def ofReflectionError (error : ReflectionError) : Exception :=
  match error with
  | .thrown exceptionClass message => ⟨exceptionClass, some message⟩
  | .unsupported signature =>
      ⟨"Ljava/lang/UnsupportedOperationException;", some signature⟩
  | .invalidArgument _ _ =>
      ⟨"Ljava/lang/IllegalArgumentException;", some error.message⟩

end Exception

end Callsite
