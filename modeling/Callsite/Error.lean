import Callsite.Instance
import Callsite.TypedValue

/-!
# Errors

The causes for which a look-up, a construction or an execution is refused.  Each
kind of error has one function that words it.
-/

namespace Callsite

/-- What is wrong with a signature, an instruction or an argument. -/
inductive Malformation where
  | signatureWithoutArrow (signature : String)
  | signatureWithoutOpening (signature : String)
  | signatureWithoutClosing (signature : String)
  /-- The class is no reference type or the result is missing. -/
  | signatureEnds (signature : String)
  | parameterList (signature : String)
  /-- An instruction names another number of registers than the method has
  parameters. -/
  | parameterCount (signature : String) (expected found : Nat)
  /-- An instruction lists another number of registers than the parameters
  take. -/
  | registerCount (signature : String) (expected found : Nat)
  /-- A register range passes the last register index. -/
  | registerRange (first count : Nat)
  | constructionWithoutReceiver
  | constructionOfNoObject (receiver : TypedValue)
  | constructionOfInitialized (receiver : TypedValue)
  | builderNoReference (receiver : TypedValue)
  | builderExpected (found : Instance)
  | appendNoInteger (argument : TypedValue)
  /-- A cause that a collaborator words itself. -/
  | worded (text : String)
  deriving DecidableEq

namespace Malformation

/-- The wording of a malformation. -/
def message : Malformation → String
  | .signatureWithoutArrow signature => "Signature without '->' - " ++ signature
  | .signatureWithoutOpening signature => "Signature without '(' - " ++ signature
  | .signatureWithoutClosing signature => "Signature without ')' - " ++ signature
  | .signatureEnds signature => "Invalid class or return type - " ++ signature
  | .parameterList signature => "Invalid parameter list - " ++ signature
  | .parameterCount signature expected found =>
      signature ++ " expects " ++ Decimal.ofNat expected ++
        " parameter registers, got " ++ Decimal.ofNat found
  | .registerCount signature expected found =>
      signature ++ " occupies " ++ Decimal.ofNat expected ++
        " registers, got " ++ Decimal.ofNat found
  | .registerRange first count =>
      "Register range r" ++ Decimal.ofNat first ++ " + " ++ Decimal.ofNat count ++
        " overflows"
  | .constructionWithoutReceiver => "Object.<init> without receiver"
  | .constructionOfNoObject receiver =>
      "Object.<init> receiver is not an object - " ++ receiver.text
  | .constructionOfInitialized receiver =>
      "Object.<init> receiver is already initialized - " ++ receiver.text
  | .builderNoReference receiver =>
      "StringBuilder receiver is not a reference - " ++ receiver.text
  | .builderExpected found => "StringBuilder receiver holds " ++ found.text
  | .appendNoInteger argument => "append(I) with non-integer " ++ argument.text
  | .worded text => text

end Malformation

/-- Why the body of a method could not be executed. -/
inductive ExecutionError where
  /-- The body raised an exception that cannot be modeled. -/
  | unhandled (exceptionClass message : String)
  /-- The body refers to a method that cannot be found. -/
  | methodNotFound (signature : String)
  /-- The interpreter gave up. -/
  | internal (message : String)
  deriving DecidableEq

namespace ExecutionError

/-- The wording of an execution error. -/
def message : ExecutionError → String
  | .unhandled exceptionClass message =>
      "Unhandled virtual exception " ++ exceptionClass ++ ": " ++ message
  | .methodNotFound signature => "Method not found during execution - " ++ signature
  | .internal message => "Internal execution error - " ++ message

end ExecutionError

/-- Why an operation of the library is refused. -/
inductive Error where
  | malformed (cause : Malformation)
  | typeNotFound (type : TypeName)
  | methodNotFound (signature : String)
  /-- A handle leads out of the heap or around a forwarding cycle. -/
  | invalidReference (handle : Handle)
  /-- The heap is full. -/
  | heapLimit (capacity : Nat)
  /-- A class hierarchy is too deep. -/
  | hierarchyLimit (depth : Nat)
  /-- An object cannot be created, for the given reason. -/
  | instantiation (reason : String)
  | execution (cause : ExecutionError)
  deriving DecidableEq

namespace Error

/-- The wording of an error. -/
def message : Error → String
  | .malformed cause => "Malformed - " ++ cause.message
  | .typeNotFound type => "Failed to find type - " ++ type
  | .methodNotFound signature => "Failed to find method - " ++ signature
  | .invalidReference handle => "Invalid heap reference - " ++ Decimal.ofNat handle
  | .heapLimit capacity => "Heap limit reached - " ++ Decimal.ofNat capacity ++ " instances"
  | .hierarchyLimit depth =>
      "Reach the maximum recursion level allowed - " ++ Decimal.ofNat depth
  | .instantiation reason => "Cannot instantiate " ++ reason
  | .execution cause => cause.message

/-- The execution error that an error counts as inside a method body. -/
def toExecutionError : Error → ExecutionError
  | .execution cause => cause
  | .methodNotFound signature => .methodNotFound signature
  | other => .internal other.message

end Error

end Callsite
