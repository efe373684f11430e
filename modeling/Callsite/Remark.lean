import Callsite.Reflection
import Callsite.Register
import Callsite.Text.Quoted

/-!
# Remarks

What an analysis has to say about its own decisions.  A remark is kept as data;
its level and its wording are functions of it.
-/

namespace Callsite

/-- How much a remark matters. -/
inductive RemarkLevel where
  | trace
  | debug
  | info
  | warning
  | error
  deriving DecidableEq, Repr

namespace RemarkLevel

/-- The word for a level. -/
def text : RemarkLevel → String
  | .trace => "TRACE"
  | .debug => "DEBUG"
  | .info => "INFO"
  | .warning => "WARN"
  | .error => "ERROR"

end RemarkLevel

/-- A decision that is worth a record. -/
inductive Remark where
  /-- The supertypes of an argument's type are not available. -/
  | hierarchyUnavailable (base declared : TypeName) (cause : Error)
  /-- Another method than the declared one runs. -/
  | dispatched (declared target : String)
  | unsafeFramework (target : String)
  | nativeTarget (target : String)
  | missingImplementation (target : String)
  /-- Neither emulated nor reflected, since an argument is unknown. -/
  | unknownArguments (target : String)
  | emulating (signature : String)
  | emulationFailed (target : String) (cause : Error)
  | reflectionRaised (target : String) (cause : ReflectionError)
  /-- The receiver cannot be written back to the caller. -/
  | receiverLost (target : String) (address : Nat) (cause : Error)
  /-- The object that a constructor made cannot be given to the caller. -/
  | instanceLost (target : String) (cause : Error)
  | constructionFailed (address : Nat) (cause : Error)
  /-- Nested execution came to nothing. -/
  | executionAborted (target : String)
  | executionFailed (target : String) (cause : ExecutionError)
  | noInterpreter (method : String)
  /-- A call is nested too deeply to be executed. -/
  | depthExceeded (depth limit : Nat) (signature : String) (caller : Option String)
      (address : Nat)
  | noConsensus (register : Register) (method : String) (paths : Nat)
      (widened : TypeName)
  | immutableParameter (type : TypeName)
  | immutableArgument (type actual : TypeName)
  | widenedArgument (type : TypeName)
  deriving DecidableEq

namespace Remark

/-- How much a remark matters. -/
def level : Remark → RemarkLevel
  | .hierarchyUnavailable .. => .trace
  | .dispatched .. => .trace
  | .unsafeFramework .. => .debug
  | .nativeTarget .. => .warning
  | .missingImplementation .. => .warning
  | .unknownArguments .. => .trace
  | .emulating .. => .trace
  | .emulationFailed .. => .warning
  | .reflectionRaised .. => .debug
  | .receiverLost .. => .error
  | .instanceLost .. => .error
  | .constructionFailed .. => .error
  | .executionAborted .. => .info
  | .executionFailed .. => .warning
  | .noInterpreter .. => .trace
  | .depthExceeded .. => .debug
  | .noConsensus .. => .trace
  | .immutableParameter .. => .trace
  | .immutableArgument .. => .trace
  | .widenedArgument .. => .debug

/-- The caller named in a remark on depth. -/
def callerText : Option String → String
  | none => "None"
  | some signature => "Some(" ++ Quoted.ofString signature ++ ")"

/-- The wording of a remark. -/
def message : Remark → String
  | .hierarchyUnavailable base declared cause =>
      "Cannot resolve ancestors of " ++ base ++ ", passing as " ++ declared ++ ": " ++
        cause.message
  | .dispatched declared target => "Dispatched " ++ declared ++ " to " ++ target
  | .unsafeFramework target =>
      "Not executing unsafe framework method " ++ target ++
        ", assuming maximum ambiguity"
  | .nativeTarget target =>
      "Cannot execute native method " ++ target ++ ", assuming maximum ambiguity"
  | .missingImplementation target =>
      "No implementation for " ++ target ++ ", assuming maximum ambiguity"
  | .unknownArguments target =>
      "Not emulating or reflecting " ++ target ++
        " because not all arguments are known"
  | .emulating signature => "Emulating " ++ signature
  | .emulationFailed target cause =>
      "Emulating " ++ target ++ " failed: " ++ cause.message
  | .reflectionRaised target cause =>
      "Reflecting " ++ target ++ " raised " ++ cause.message
  | .receiverLost target address cause =>
      "Failed to propagate receiver of " ++ target ++ " at " ++
        Hexadecimal.address address ++ ": " ++ cause.message
  | .instanceLost target cause =>
      "Failed to propagate constructed instance of " ++ target ++ ": " ++ cause.message
  | .constructionFailed address cause =>
      "Unexpected failure initializing object at " ++ Hexadecimal.address address ++
        ": " ++ cause.message
  | .executionAborted target =>
      "Problem executing " ++ target ++ ", propagating ambiguity"
  | .executionFailed target cause =>
      "Executing " ++ target ++ " failed: " ++ cause.message
  | .noInterpreter method => "No interpreter installed, skipping " ++ method
  | .depthExceeded depth limit signature caller address =>
      "Call depth " ++ Decimal.ofNat depth ++ " exceeds limit " ++ Decimal.ofNat limit ++
        ", not executing " ++ signature ++ " (from " ++ callerText caller ++ " @" ++
        Hexadecimal.address address ++ ")"
  | .noConsensus register method paths widened =>
      "No consensus for " ++ register.text ++ " in " ++ method ++ " across " ++
        Decimal.ofNat paths ++ " paths, widened to " ++ widened
  | .immutableParameter type => type ++ " (parameter) is immutable"
  | .immutableArgument type actual =>
      type ++ " (actual " ++ actual ++ ") is immutable"
  | .widenedArgument type =>
      type ++ " is mutable and passed to an unresolved call, marking unknown"

end Remark

end Callsite
