import Callsite.Emulation
import Callsite.InPlace

/-!
# Emulated methods of `java.lang`

Methods that create or change objects.  `EmulatedCall.run` is what a call comes to, as a
function of its frame and its heap; `carryOut` does it in place, one change after another.
-/

namespace Callsite.JavaLang

-- Powers are those of the core library, also where another library adds its own.
attribute [local instance (high)] instPowNat Int.instNatPow

/-- The methods that are emulated from the start. -/
inductive Emulated where
  | objectGetClass
  | stringInit
  | builderInit
  | builderInitString
  | builderAppendString
  | builderAppendInt
  | builderToString
  | integerParseInt
  deriving DecidableEq, Repr

namespace Emulated

/-- The signature of an emulated method. -/
def signature : Emulated → String
  | .objectGetClass => "Ljava/lang/Object;->getClass()Ljava/lang/Class;"
  | .stringInit => "Ljava/lang/String;-><init>(Ljava/lang/String;)V"
  | .builderInit => "Ljava/lang/StringBuilder;-><init>()V"
  | .builderInitString => "Ljava/lang/StringBuilder;-><init>(Ljava/lang/String;)V"
  | .builderAppendString =>
      "Ljava/lang/StringBuilder;->append(Ljava/lang/String;)Ljava/lang/StringBuilder;"
  | .builderAppendInt =>
      "Ljava/lang/StringBuilder;->append(I)Ljava/lang/StringBuilder;"
  | .builderToString => "Ljava/lang/StringBuilder;->toString()Ljava/lang/String;"
  | .integerParseInt => "Ljava/lang/Integer;->parseInt(Ljava/lang/String;)I"

/-- All emulated methods. -/
def all : List Emulated :=
  [objectGetClass, stringInit, builderInit, builderInitString, builderAppendString,
    builderAppendInt, builderToString, integerParseInt]

end Emulated

/-- The exception for a reference that is `null`. -/
def nullPointer : Exception := { className := "Ljava/lang/NullPointerException;" }

/-- The exception for text that is no numeral. -/
def numberFormat (message : String) : Exception :=
  { className := "Ljava/lang/NumberFormatException;", message := some message }

/-- A call to an emulated method: its frame and the heap it works on. -/
structure EmulatedCall where
  method : Method
  frame : Frame
  heap : Heap

/-- What became of an emulated call that was carried out. -/
structure EmulatedReturn where
  result : EmulationResult
  frame : Frame
  heap : Heap

namespace EmulatedCall

variable (call : EmulatedCall)

/-- An argument by its position, the receiver first. -/
def argument (position : Nat) : TypedValue :=
  call.frame.peekParameter ((call.method.offsets[position]?.map Prod.fst).getD 0)

/-- The content of an argument that refers to a string, nothing for any other
argument. -/
def stringArgument (position : Nat) : Except Error (Option String) :=
  match (call.argument position).handle? with
  | some handle => call.heap.stringOf handle
  | none => .ok none

/-- The handle and the content of the character buffer that is the receiver. -/
def builder : Except Error (Handle × String) :=
  let receiver := call.argument 0
  match receiver.handle? with
  | none => .error (.malformed (.builderNoReference receiver))
  | some handle => do
      match ← call.heap.get handle with
      | .builder content => .ok (handle, content)
      | other => .error (.malformed (.builderExpected other))

/-- The call raises an exception and does nothing else. -/
def raise (exception : Exception) : EmulatedReturn :=
  { result := EmulationResult.raised exception
    frame := call.frame
    heap := call.heap }

/-- The call raises the exception for a reference that is `null`. -/
def raiseNullPointer : EmulatedReturn := call.raise nullPointer

/-- The call raises the exception for text that is no numeral. -/
def raiseNumberFormat (message : String) : EmulatedReturn :=
  call.raise (numberFormat message)

/-- The call makes an object and returns a reference to it. -/
def returnNew (inst : Instance) (type : TypeName) : Except Error EmulatedReturn := do
  let (handle, heap) ← call.heap.alloc inst
  return {
    result := { sideEffect := .nothing }
    frame := call.frame.assign .returned (TypedValue.reference handle type)
    heap }

/-- The call makes an object and puts it in the place of the receiver. -/
def receiveNew (inst : Instance) (type : TypeName) : Except Error EmulatedReturn := do
  let (handle, heap) ← call.heap.alloc inst
  return {
    result := { sideEffect := .nothing }
    frame := call.frame.assignParameter 0 (TypedValue.reference handle type)
    heap }

/-- The call adds text to the receiver and returns the receiver. -/
def append (suffix : String) : Except Error EmulatedReturn := do
  let (handle, content) ← call.builder
  let heap ← call.heap.replace handle (.builder (content ++ suffix))
  return {
    result := { sideEffect := .weak }
    frame := call.frame.assign .returned (call.argument 0)
    heap }

/-- The numeral of a 32-bit integer, with an optional sign. -/
def parseInt? (text : String) : Option Int32 :=
  match Decimal.integer? text.toList with
  | some number =>
      if -2 ^ (31 : Nat) ≤ number ∧ number < 2 ^ (31 : Nat) then
        some (Int32.ofInt number)
      else
        none
  | none => none

/-- What a call to an emulated method comes to. -/
def run : Emulated → Except Error EmulatedReturn
  | .objectGetClass =>
      if (call.argument 0).isNull then
        .ok call.raiseNullPointer
      else
        call.returnNew
          (.classObject (call.frame.runtimeType call.heap call.frame.parameterStart))
          TypeName.classObject
  | .stringInit => do
      match ← call.stringArgument 1 with
      | none => .ok call.raiseNullPointer
      | some text => call.receiveNew (.string text) TypeName.string
  | .builderInit => call.receiveNew (.builder "") TypeName.stringBuilder
  | .builderInitString => do
      match ← call.stringArgument 1 with
      | none => .ok call.raiseNullPointer
      | some text => call.receiveNew (.builder text) TypeName.stringBuilder
  | .builderAppendString => do
      let suffix ← call.stringArgument 1
      call.append (suffix.getD "null")
  | .builderAppendInt =>
      let number := call.argument 1
      match number.value.integer? with
      | some value => call.append (Decimal.ofInt value)
      | none => .error (.malformed (.appendNoInteger number))
  | .builderToString => do
      let (_, content) ← call.builder
      call.returnNew (.string content) TypeName.string
  | .integerParseInt => do
      match ← call.stringArgument 0 with
      | none => .ok (call.raiseNumberFormat "Cannot parse null string")
      | some text =>
          match parseInt? text with
          | none => .ok (call.raiseNumberFormat ("For input string: \"" ++ text ++ "\""))
          | some number =>
              .ok {
                result := { sideEffect := .nothing }
                frame := call.frame.assign .returned (TypedValue.int number)
                heap := call.heap }

end EmulatedCall

/-- What an emulated method does to its call, in place. -/
abbrev EmulatedM := InPlace Error EmulatedCall

namespace EmulatedM

open InPlace (ask step)

/-- Look at the call. -/
def view {α : Type} (question : EmulatedCall → α) : EmulatedM α :=
  ask fun call => .ok (question call)

/-- Put an object into the heap. -/
def alloc (inst : Instance) : EmulatedM Handle :=
  step fun call => do
    let (handle, heap) ← call.heap.alloc inst
    return (handle, { call with heap })

/-- Overwrite the object of a handle. -/
def replace (handle : Handle) (inst : Instance) : EmulatedM Unit :=
  step fun call => do
    let heap ← call.heap.replace handle inst
    return ((), { call with heap })

/-- Write the return slot. -/
def assignReturned (item : TypedValue) : EmulatedM Unit :=
  step fun call => .ok ((), { call with frame := call.frame.assign .returned item })

/-- Write the receiver's parameter. -/
def assignReceiver (item : TypedValue) : EmulatedM Unit :=
  step fun call => .ok ((), { call with frame := call.frame.assignParameter 0 item })

/-- Make an object and return a reference to it. -/
def returnNew (inst : Instance) (type : TypeName) : EmulatedM EmulationResult := do
  let handle ← alloc inst
  assignReturned (TypedValue.reference handle type)
  return { sideEffect := .nothing }

/-- Make an object and put it in the place of the receiver. -/
def receiveNew (inst : Instance) (type : TypeName) : EmulatedM EmulationResult := do
  let handle ← alloc inst
  assignReceiver (TypedValue.reference handle type)
  return { sideEffect := .nothing }

/-- Add text to the receiver and return the receiver. -/
def append (suffix : String) : EmulatedM EmulationResult := do
  let (handle, content) ← ask EmulatedCall.builder
  replace handle (.builder (content ++ suffix))
  let receiver ← view fun call => call.argument 0
  assignReturned receiver
  return { sideEffect := .weak }

end EmulatedM

open InPlace (ask) in
open EmulatedM in
/-- Carry out a call to an emulated method. -/
def carryOut : Emulated → EmulatedM EmulationResult
  | .objectGetClass => do
      if (← view fun call => call.argument 0).isNull then
        return EmulationResult.raised nullPointer
      else
        let type ← view fun call =>
          call.frame.runtimeType call.heap call.frame.parameterStart
        returnNew (.classObject type) TypeName.classObject
  | .stringInit => do
      match ← ask fun call => call.stringArgument 1 with
      | none => return EmulationResult.raised nullPointer
      | some text => receiveNew (.string text) TypeName.string
  | .builderInit => receiveNew (.builder "") TypeName.stringBuilder
  | .builderInitString => do
      match ← ask fun call => call.stringArgument 1 with
      | none => return EmulationResult.raised nullPointer
      | some text => receiveNew (.builder text) TypeName.stringBuilder
  | .builderAppendString => do
      let suffix ← ask fun call => call.stringArgument 1
      append (suffix.getD "null")
  | .builderAppendInt => do
      let number ← view fun call => call.argument 1
      match number.value.integer? with
      | some value => append (Decimal.ofInt value)
      | none => throw (.malformed (.appendNoInteger number))
  | .builderToString => do
      let (_, content) ← ask EmulatedCall.builder
      returnNew (.string content) TypeName.string
  | .integerParseInt => do
      match ← ask fun call => call.stringArgument 0 with
      | none => return EmulationResult.raised (numberFormat "Cannot parse null string")
      | some text =>
          match EmulatedCall.parseInt? text with
          | none =>
              return EmulationResult.raised
                (numberFormat ("For input string: \"" ++ text ++ "\""))
          | some number =>
              assignReturned (TypedValue.int number)
              return { sideEffect := .nothing }

/-- The handler of an emulated method.  It works on the activation and its heap, also if it
fails. -/
def handler {σ : Type} (emulated : Emulated) : Handler σ := fun activation => do
  let heap ← AnalysisM.heap activation.heap
  let (result, call) :=
    (carryOut emulated).perform ⟨activation.method, activation.frame, heap⟩
  AnalysisM.setHeap activation.heap call.heap
  return (result, activation.withFrame call.frame)

/-- The emulator of the methods that are emulated from the start, none of which
copes with unknown arguments. -/
def emulator (σ : Type) : Emulator σ :=
  { methods := Emulated.all.map fun emulated =>
      { signature := emulated.signature, handler := handler emulated } }

end Callsite.JavaLang
