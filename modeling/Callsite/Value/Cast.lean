import Callsite.TypeName
import Callsite.Value

/-!
# Casts between primitives

Registers do not tell the small integral types apart, so an `int` constant may
have to be read as a `boolean` or a `byte`.  A cast to an integral type keeps the
low bits of the number, a cast to `boolean` asks whether it is zero, and a cast
from a floating-point number drops the fraction and clamps it to 64 bits first.
A floating-point number that has the precision of the target keeps its word.
-/

namespace Callsite

-- Powers are those of the core library, also where another library adds its own.
attribute [local instance (high)] instPowNat Int.instNatPow

/-- The primitive types with integral values. -/
inductive IntegralType where
  | boolean
  | byte
  | short
  | char
  | int
  | long
  deriving DecidableEq, Repr

namespace IntegralType

/-- The type that a descriptor names. -/
def ofName? (type : TypeName) : Option IntegralType :=
  match type with
  | "Z" => some .boolean
  | "B" => some .byte
  | "S" => some .short
  | "C" => some .char
  | "I" => some .int
  | "J" => some .long
  | _ => none

/-- The value of the type with the same low bits as a number, or for `boolean`
whether the number is other than zero. -/
def wrap (type : IntegralType) (number : Int) : Value :=
  match type with
  | .boolean => .boolean (decide (number ≠ 0))
  | .byte => .byte (Int8.ofInt number)
  | .short => .short (Int16.ofInt number)
  | .char => .char (UInt16.ofInt number)
  | .int => .int (Int32.ofInt number)
  | .long => .long (Int64.ofInt number)

end IntegralType

namespace Value

/-- The least and the greatest number that a floating-point number is clamped
to before its low bits are kept. -/
def truncateToLong (datum : FloatDatum) : Int :=
  datum.truncate (-2 ^ (63 : Nat)) (2 ^ (63 : Nat) - 1)

/-- The number whose low bits a cast keeps: that of an integral value, or the
integer part of a floating-point one. -/
def castNumber? (value : Value) : Option Int :=
  value.integer?.or (value.real?.map truncateToLong)

/-- The word of a primitive in single precision.  Not every word is the one that
encodes what it stands for, so a word that has this precision is kept. -/
def singleWord? : Value → Option UInt32
  | .float word => some word
  | value => value.real?.map fun datum => UInt32.ofNat (FloatFormat.single.encode datum)

/-- The word of a primitive in double precision. -/
def doubleWord? : Value → Option UInt64
  | .double word => some word
  | value => value.real?.map fun datum => UInt64.ofNat (FloatFormat.double.encode datum)

/-- The representation of a primitive in another primitive type.  A value that
is no primitive and a target that is none leave the value as it is. -/
def cast (value : Value) (type : TypeName) : Value :=
  match IntegralType.ofName? type with
  | some integral =>
      match value.castNumber? with
      | some number => integral.wrap number
      | none => value
  | none =>
      match type with
      | "F" => (value.singleWord?.map Value.float).getD value
      | "D" => (value.doubleWord?.map Value.double).getD value
      | _ => value

/-- What is no primitive stays as it is. -/
theorem cast_of_real?_eq_none {value : Value} (none : value.real? = none) (type : TypeName) :
    value.cast type = value := by
  cases value <;> cases none
  case unknown | null | reference =>
    unfold cast
    split
    · rfl
    · split <;> rfl

@[simp] theorem cast_unknown (type : TypeName) : Value.unknown.cast type = .unknown :=
  cast_of_real?_eq_none rfl type

@[simp] theorem cast_null (type : TypeName) : Value.null.cast type = .null :=
  cast_of_real?_eq_none rfl type

@[simp] theorem cast_reference (handle : Handle) (type : TypeName) :
    (Value.reference handle).cast type = .reference handle :=
  cast_of_real?_eq_none rfl type

end Value

end Callsite
