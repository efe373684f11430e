import Callsite.Frame
import Callsite.InPlace
import Callsite.Reflection
import Callsite.Text.Utf16

/-!
# Reflected methods of `java.lang`

A few methods without side effects, computed on known arguments.  Lengths and
positions of strings count UTF-16 units, and arithmetic wraps to 32 bits.  `reflect` is what
a call comes to, as a function of its frame and its heap; `ReflectedM.reflect` does it in
place.
-/

namespace Callsite.JavaLang

-- Powers are those of the core library, also where another library adds its own.
attribute [local instance (high)] instPowNat Int.instNatPow

/-- The methods that can be reflected. -/
inductive Reflected where
  | stringLength
  | stringConcat
  | stringCharAt
  | stringEquals
  | mathAbs
  | mathMax
  | integerToString
  deriving DecidableEq, Repr

namespace Reflected

/-- The signature of a reflected method. -/
def signature : Reflected → String
  | .stringLength => "Ljava/lang/String;->length()I"
  | .stringConcat => "Ljava/lang/String;->concat(Ljava/lang/String;)Ljava/lang/String;"
  | .stringCharAt => "Ljava/lang/String;->charAt(I)C"
  | .stringEquals => "Ljava/lang/String;->equals(Ljava/lang/Object;)Z"
  | .mathAbs => "Ljava/lang/Math;->abs(I)I"
  | .mathMax => "Ljava/lang/Math;->max(II)I"
  | .integerToString => "Ljava/lang/Integer;->toString(I)Ljava/lang/String;"

/-- All reflected methods. -/
def all : List Reflected :=
  [stringLength, stringConcat, stringCharAt, stringEquals, mathAbs, mathMax,
    integerToString]

/-- The reflected method of a signature. -/
def ofSignature? (signature : String) : Option Reflected :=
  all.find? fun reflected => reflected.signature == signature

end Reflected

/-- A call to a reflected method: what it can read its arguments from. -/
structure ReflectedCall where
  method : Method
  frame : Frame
  heap : Heap

namespace ReflectedCall

variable (call : ReflectedCall)

/-- The failure for an argument that cannot be used. -/
def invalid (position : Nat) : ReflectionError :=
  .invalidArgument call.method.signature position

/-- An argument, which must be known. -/
def argument (position : Nat) : Except ReflectionError TypedValue :=
  match call.method.offsets[position]? with
  | none => .error (call.invalid position)
  | some (offset, _) =>
      let item := call.frame.peekParameter offset
      if item.isUnknown then .error (call.invalid position) else .ok item

/-- An argument that fits an `int`. -/
def intArgument (position : Nat) : Except ReflectionError Int := do
  let item ← call.argument position
  match item.value.integer? with
  | some number =>
      if -2 ^ (31 : Nat) ≤ number ∧ number < 2 ^ (31 : Nat) then .ok number
      else .error (call.invalid position)
  | none => .error (call.invalid position)

/-- The content of an argument that is a string, nothing if it is `null`. -/
def stringArgument (position : Nat) : Except ReflectionError (Option String) := do
  let item ← call.argument position
  if item.isNull then
    return none
  match item.handle? with
  | none => .error (call.invalid position)
  | some handle =>
      match call.heap.get handle with
      | .ok (.string text) => .ok (some text)
      | _ => .error (call.invalid position)

/-- The failure for a string that is `null`. -/
def nullPointer : ReflectionError :=
  .thrown "Ljava/lang/NullPointerException;" ""

/-- The content of an argument that must be a string. -/
def requiredString (position : Nat) : Except ReflectionError String := do
  match ← call.stringArgument position with
  | some text => .ok text
  | none => .error nullPointer

/-- A reference to a new string.  A full heap shows as an exception. -/
def newString (text : String) : Except ReflectionError (TypedValue × Heap) :=
  match call.heap.alloc (.string text) with
  | .ok (handle, heap) => .ok (TypedValue.reference handle TypeName.string, heap)
  | .error error => .error (.thrown "Ljava/lang/OutOfMemoryError;" error.message)

/-- A result that needs no new object. -/
def primitive (value : Value) (type : TypeName) :
    Except ReflectionError (TypedValue × Heap) :=
  .ok (⟨value, type⟩, call.heap)

/-- The failure for a position outside a string. -/
def outOfBounds (position : Int) (length : Nat) : ReflectionError :=
  .thrown "Ljava/lang/StringIndexOutOfBoundsException;"
    ("index " ++ Decimal.ofInt position ++ ", length " ++ Decimal.ofNat length)

/-- Whether an argument refers to a string with the given content. -/
def isString (item : TypedValue) (text : String) : Bool :=
  match item.handle? with
  | none => false
  | some handle =>
      match call.heap.get handle with
      | .ok (.string other) => other == text
      | _ => false

/-- The result of a reflected method, and the heap after it. -/
def result : Reflected → Except ReflectionError (TypedValue × Heap)
  | .stringLength => do
      let text ← call.requiredString 0
      let length := min (Utf16.units text).length (2 ^ (31 : Nat) - 1)
      call.primitive (.int (Int32.ofInt length)) TypeName.int
  | .stringConcat => do
      let text ← call.requiredString 0
      let suffix ← call.requiredString 1
      call.newString (text ++ suffix)
  | .stringCharAt => do
      let text ← call.requiredString 0
      let position ← call.intArgument 1
      let units := Utf16.units text
      if position < 0 then
        .error (outOfBounds position units.length)
      else
        match units[position.toNat]? with
        | some unit => call.primitive (.char unit) "C"
        | none => .error (outOfBounds position units.length)
  | .stringEquals => do
      let text ← call.requiredString 0
      let other ← call.argument 1
      call.primitive (.boolean (call.isString other text)) "Z"
  | .mathAbs => do
      let number ← call.intArgument 0
      call.primitive (.int (Int32.ofInt number.natAbs)) TypeName.int
  | .mathMax => do
      let left ← call.intArgument 0
      let right ← call.intArgument 1
      call.primitive (.int (Int32.ofInt (max left right))) TypeName.int
  | .integerToString => do
      let number ← call.intArgument 0
      call.newString (Decimal.ofInt number)

end ReflectedCall

/-- What the reflection of a method on the arguments in a frame comes to. -/
def reflect (method : Method) (frame : Frame) (heap : Heap) :
    Except ReflectionError (Frame × Heap) :=
  match Reflected.ofSignature? method.signature with
  | none => .error (.unsupported method.signature)
  | some reflected => do
      let (item, heap) ← (ReflectedCall.mk method frame heap).result reflected
      return (frame.assign .returned item, heap)

/-- What a reflected method does to its call, in place. -/
abbrev ReflectedM := InPlace ReflectionError ReflectedCall

namespace ReflectedM

open InPlace (ask step)

/-- Make a string. -/
def newString (text : String) : ReflectedM TypedValue :=
  step fun call => do
    let (item, heap) ← call.newString text
    return (item, { call with heap })

/-- Write the return slot. -/
def assignReturned (item : TypedValue) : ReflectedM Unit :=
  step fun call => .ok ((), { call with frame := call.frame.assign .returned item })

/-- Make the result of a reflected method. -/
def result : Reflected → ReflectedM TypedValue
  | .stringLength => do
      let text ← ask fun call => call.requiredString 0
      let length := min (Utf16.units text).length (2 ^ (31 : Nat) - 1)
      return ⟨.int (Int32.ofInt length), TypeName.int⟩
  | .stringConcat => do
      let text ← ask fun call => call.requiredString 0
      let suffix ← ask fun call => call.requiredString 1
      newString (text ++ suffix)
  | .stringCharAt => do
      let text ← ask fun call => call.requiredString 0
      let position ← ask fun call => call.intArgument 1
      let units := Utf16.units text
      if position < 0 then
        throw (ReflectedCall.outOfBounds position units.length)
      else
        match units[position.toNat]? with
        | some unit => return ⟨.char unit, "C"⟩
        | none => throw (ReflectedCall.outOfBounds position units.length)
  | .stringEquals => do
      let text ← ask fun call => call.requiredString 0
      let other ← ask fun call => call.argument 1
      let equal ← ask fun call => .ok (call.isString other text)
      return ⟨.boolean equal, "Z"⟩
  | .mathAbs => do
      let number ← ask fun call => call.intArgument 0
      return ⟨.int (Int32.ofInt number.natAbs), TypeName.int⟩
  | .mathMax => do
      let left ← ask fun call => call.intArgument 0
      let right ← ask fun call => call.intArgument 1
      return ⟨.int (Int32.ofInt (max left right)), TypeName.int⟩
  | .integerToString => do
      let number ← ask fun call => call.intArgument 0
      newString (Decimal.ofInt number)

/-- Reflect the method of a call. -/
def reflect : ReflectedM Unit := do
  let signature ← ask fun call => .ok call.method.signature
  match Reflected.ofSignature? signature with
  | none => throw (.unsupported signature)
  | some reflected => assignReturned (← result reflected)

end ReflectedM

@[simp] theorem ofSignature?_signature (reflected : Reflected) :
    Reflected.ofSignature? reflected.signature = some reflected := by
  cases reflected <;> decide

end Callsite.JavaLang
