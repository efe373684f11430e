import Callsite.FloatFormat.Shortest
import Callsite.Text.Hexadecimal
import Callsite.Text.Utf16

/-!
# Register payloads

A value is a primitive of one of eight kinds, a handle into a heap, `null`, or
unknown.  Floating-point payloads are kept as words, so two values are equal
exactly if they have the same kind and the same bits.
-/

namespace Callsite

/-- The index of a heap slot.  Registers with equal handles share the object. -/
abbrev Handle := Nat

/-- What a register holds. -/
inductive Value where
  /-- Nothing is known. -/
  | unknown
  | null
  | boolean (value : Bool)
  | byte (value : Int8)
  | short (value : Int16)
  /-- A UTF-16 code unit. -/
  | char (unit : UInt16)
  | int (value : Int32)
  | long (value : Int64)
  /-- The word of a single-precision number. -/
  | float (word : UInt32)
  /-- The word of a double-precision number. -/
  | double (word : UInt64)
  /-- An object in the heap. -/
  | reference (handle : Handle)
  deriving DecidableEq, Inhabited

namespace Value

/-- Whether nothing is known of the value. -/
def isUnknown (value : Value) : Bool :=
  value == .unknown

/-- Whether the value is `null`. -/
def isNull (value : Value) : Bool :=
  value == .null

/-- The handle of a reference. -/
def handle? : Value → Option Handle
  | .reference handle => some handle
  | _ => none

/-- The number that a value of one of the six integral kinds stands for. -/
def integer? : Value → Option Int
  | .boolean value => some (if value then 1 else 0)
  | .byte value => some value.toInt
  | .short value => some value.toInt
  | .char unit => some (Int.ofNat unit.toNat)
  | .int value => some value.toInt
  | .long value => some value.toInt
  | _ => none

/-- The number that a primitive stands for, an integer rounded to double
precision. -/
def real? : Value → Option FloatDatum
  | .float word => some (FloatFormat.single.decode word.toNat)
  | .double word => some (FloatFormat.double.decode word.toNat)
  | value =>
      value.integer?.map fun number =>
        FloatFormat.double.decode (FloatFormat.double.encode (.ofInt number))

/-- The text of a code unit between its quotes: the character, or its number if
it is a surrogate. -/
def unitText (unit : UInt16) : String :=
  if Utf16.isSurrogate unit then
    "\\u" ++ Hexadecimal.padded 4 unit.toNat
  else
    String.singleton (Char.ofNat unit.toNat)

/-- The text of a value. -/
def text : Value → String
  | .unknown => "unknown"
  | .null => "null"
  | .boolean value => if value then "true" else "false"
  | .byte value => Decimal.ofInt value.toInt
  | .short value => Decimal.ofInt value.toInt
  | .char unit => "'" ++ unitText unit ++ "'"
  | .int value => Decimal.ofInt value.toInt
  | .long value => Decimal.ofInt value.toInt ++ "L"
  | .float word => FloatFormat.single.text word.toNat ++ "f"
  | .double word => FloatFormat.double.text word.toNat
  | .reference handle => "@" ++ Decimal.ofNat handle

@[simp] theorem isUnknown_iff {value : Value} :
    value.isUnknown = true ↔ value = .unknown := by
  simp [isUnknown]

@[simp] theorem isNull_iff {value : Value} :
    value.isNull = true ↔ value = .null := by
  simp [isNull]

@[simp] theorem handle?_reference (handle : Handle) :
    (Value.reference handle).handle? = some handle := rfl

theorem handle?_eq_some {value : Value} {handle : Handle} :
    value.handle? = some handle ↔ value = .reference handle := by
  cases value <;> simp [handle?]

end Value

end Callsite
