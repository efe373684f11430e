import Callsite.Activation
import Callsite.Analysis
import Callsite.Exception
import Callsite.SideEffect

/-!
# Emulated methods

A handler stands in for the body of a method.  It is given an activation whose
parameters hold the arguments, writes its result to the return slot, and reports
the side effect and the exceptions of the call.
-/

namespace Callsite

/-- What an emulated call did. -/
structure EmulationResult where
  sideEffect : SideEffect
  /-- The exceptions that the call raised, none if it returned. -/
  exceptions : List Exception := []
  deriving DecidableEq

namespace EmulationResult

/-- The call raised an exception, which is no side effect by itself. -/
def raised (exception : Exception) : EmulationResult :=
  { sideEffect := .nothing, exceptions := [exception] }

end EmulationResult

/-- A stand-in for the body of a method. -/
abbrev Handler (σ : Type) :=
  Activation → AnalysisM σ (Except Error EmulationResult × Activation)

/-- A method with its stand-in. -/
structure EmulatedMethod (σ : Type) where
  signature : String
  /-- Whether the handler can cope with unknown arguments. -/
  handlesUnknown : Bool := false
  handler : Handler σ

/-- The emulated methods, one of each signature as long as they are added by
`register`. -/
structure Emulator (σ : Type) where
  methods : List (EmulatedMethod σ) := []

namespace Emulator

variable {σ : Type} (emulator : Emulator σ)

/-- Add a method in place of any other of its signature. -/
def register (method : EmulatedMethod σ) : Emulator σ :=
  { methods :=
      emulator.methods.filter (fun other => other.signature != method.signature) ++
        [method] }

/-- The emulated method of a signature. -/
def find? (signature : String) : Option (EmulatedMethod σ) :=
  emulator.methods.find? fun method => method.signature == signature

/-- The number of emulated methods. -/
def size : Nat := emulator.methods.length

/-- Whether a method is emulated. -/
def canEmulate (signature : String) : Bool := (emulator.find? signature).isSome

/-- Whether a method is emulated even if arguments are unknown. -/
def handlesUnknown (signature : String) : Bool :=
  (emulator.find? signature).any EmulatedMethod.handlesUnknown

/-- Run the handler of a method. -/
def emulate (activation : Activation) (signature : String) :
    AnalysisM σ (Except Error EmulationResult × Activation) :=
  match emulator.find? signature with
  | none => return (.error (.methodNotFound signature), activation)
  | some method => do
      AnalysisM.remark (.emulating signature)
      method.handler activation

@[simp] theorem find?_register_self (method : EmulatedMethod σ) :
    (emulator.register method).find? method.signature = some method := by
  simp only [register, find?, List.find?_append]
  have absent : (emulator.methods.filter
      fun other => other.signature != method.signature).find?
        (fun other => other.signature == method.signature) = none := by
    simp
  rw [absent]
  simp

theorem canEmulate_of_handlesUnknown {signature : String}
    (handles : emulator.handlesUnknown signature = true) :
    emulator.canEmulate signature = true := by
  unfold handlesUnknown at handles
  rw [canEmulate]
  cases found : emulator.find? signature with
  | none => simp [found] at handles
  | some method => rfl

end Emulator

end Callsite
