import Callsite.Value.Cast
import Mathlib.Data.Int.ModEq

/-!
# Casts to integral types

The numbers of an integral type are as many as its bits can tell apart, and no two of them
agree modulo two to the number of bits.  A cast to a type other than `boolean` yields the one
number of the type that agrees in this sense with the number cast.  This is why casts compose:
a type on the way that is at least as wide keeps all that the target keeps.
-/

namespace Callsite

-- Powers are those of the core library, also where another library adds its own.
attribute [local instance (high)] instPowNat Int.instNatPow

namespace IntegralType

/-- The descriptor of the type. -/
def name : IntegralType → TypeName
  | .boolean => "Z"
  | .byte => "B"
  | .short => "S"
  | .char => "C"
  | .int => "I"
  | .long => "J"

/-- The number of bits that tell the numbers of the type apart. -/
def width : IntegralType → Nat
  | .boolean => 1
  | .byte => 8
  | .short | .char => 16
  | .int => 32
  | .long => 64

/-- The least number of the type.  Characters are unsigned. -/
def lowest : IntegralType → Int
  | .boolean | .char => 0
  | .byte => -2 ^ 7
  | .short => -2 ^ 15
  | .int => -2 ^ 31
  | .long => -2 ^ 63

/-- The type has the number. -/
def InRange (type : IntegralType) (number : Int) : Prop :=
  type.lowest ≤ number ∧ number < type.lowest + 2 ^ type.width

variable {type : IntegralType} {number left right : Int}

instance (type : IntegralType) (number : Int) : Decidable (type.InRange number) :=
  inferInstanceAs (Decidable (_ ∧ _))

@[simp] theorem ofName?_name (type : IntegralType) : ofName? type.name = some type := by
  cases type <;> rfl

/-- A type has one number at most for each residue. -/
theorem InRange.eq_of_modEq (leftIn : type.InRange left) (rightIn : type.InRange right)
    (same : left ≡ right [ZMOD 2 ^ type.width]) : left = right := by
  obtain ⟨leftLow, leftHigh⟩ := leftIn
  obtain ⟨rightLow, rightHigh⟩ := rightIn
  have shifted := same.sub_right type.lowest
  rw [Int.ModEq, Int.emod_eq_of_lt (by omega) (by omega),
    Int.emod_eq_of_lt (by omega) (by omega)] at shifted
  omega

end IntegralType

namespace Value

open IntegralType

/-- The integral type of a payload. -/
def integralType? : Value → Option IntegralType
  | .boolean _ => some .boolean
  | .byte _ => some .byte
  | .short _ => some .short
  | .char _ => some .char
  | .int _ => some .int
  | .long _ => some .long
  | _ => none

/-- The value is of an integral type and stands for a number. -/
structure Represents (value : Value) (type : IntegralType) (number : Int) : Prop where
  type : value.integralType? = some type
  number : value.integer? = some number

variable {value left right : Value} {type target via : IntegralType} {number other : Int}

/-- The code unit of a number is its remainder, whatever its sign. -/
theorem unit_toNat_ofInt (number : Int) :
    Int.ofNat (UInt16.ofInt number).toNat = number % 2 ^ 16 := by
  rw [UInt16.ofInt, UInt16.toNat_ofNat', Int.ofNat_eq_natCast]
  omega

theorem unit_ofInt_toNat (unit : UInt16) : UInt16.ofInt (Int.ofNat unit.toNat) = unit := by
  apply UInt16.toNat_inj.mp
  apply Int.ofNat.inj
  rw [unit_toNat_ofInt]
  exact Int.emod_eq_of_lt (Int.natCast_nonneg _) (Int.ofNat_lt.mpr unit.toNat_lt)

/-- What a value stands for lies in the range of its type. -/
theorem Represents.inRange (represents : value.Represents type number) :
    type.InRange number := by
  obtain ⟨kind, held⟩ := represents
  cases value <;> cases kind <;> cases held
  case boolean value => cases value <;> decide
  case char unit => exact ⟨Int.natCast_nonneg _, Int.ofNat_lt.mpr unit.toNat_lt⟩
  case byte value | short value | int value | long value =>
    exact ⟨value.le_toInt, value.toInt_lt⟩

/-- A value is what its type makes of its number. -/
theorem Represents.eq_wrap (represents : value.Represents type number) :
    value = type.wrap number := by
  obtain ⟨kind, held⟩ := represents
  cases value <;> cases kind <;> cases held
  case boolean value => cases value <;> rfl
  case char unit => exact congrArg _ (unit_ofInt_toNat unit).symm
  case byte value | short value | int value | long value =>
    exact congrArg _ value.ofInt_toInt.symm

theorem exists_represents_wrap (type : IntegralType) (number : Int) :
    ∃ held, (type.wrap number).Represents type held := by
  cases type <;> exact ⟨_, rfl, rfl⟩

/-- What is kept of a number agrees with it modulo two to the width of the type. -/
theorem Represents.modEq (represents : (type.wrap number).Represents type other)
    (numeric : type ≠ .boolean) : other ≡ number [ZMOD 2 ^ type.width] := by
  obtain ⟨-, held⟩ := represents
  cases type <;> cases held
  case boolean => exact absurd rfl numeric
  case char => exact (congrArg (· % 2 ^ 16) (unit_toNat_ofInt number)).trans (Int.emod_emod ..)
  case byte => exact (congrArg (· % 2 ^ 8) Int8.toInt_ofInt).trans Int.bmod_emod
  case short => exact (congrArg (· % 2 ^ 16) Int16.toInt_ofInt).trans Int.bmod_emod
  case int => exact (congrArg (· % 2 ^ 32) Int32.toInt_ofInt).trans Int.bmod_emod
  case long => exact (congrArg (· % 2 ^ 64) Int64.toInt_ofInt).trans Int.bmod_emod

/-- A number of the type that agrees with another modulo two to the width is what is kept of
it. -/
theorem Represents.eq_iff (represents : (type.wrap number).Represents type other)
    (numeric : type ≠ .boolean) {candidate : Int} :
    type.InRange candidate ∧ candidate ≡ number [ZMOD 2 ^ type.width] ↔ candidate = other := by
  have residue := represents.modEq numeric
  constructor
  · intro ⟨inRange, same⟩
    exact inRange.eq_of_modEq represents.inRange (same.trans residue.symm)
  · rintro rfl
    exact ⟨represents.inRange, residue⟩

/-- Numbers that agree modulo two to the width have the same low bits. -/
theorem wrap_congr (numeric : type ≠ .boolean)
    (same : number ≡ other [ZMOD 2 ^ type.width]) : type.wrap number = type.wrap other := by
  obtain ⟨held, represents⟩ := exists_represents_wrap type number
  obtain ⟨otherHeld, otherRepresents⟩ := exists_represents_wrap type other
  have agree : held = otherHeld := (otherRepresents.eq_iff numeric).mp
    ⟨represents.inRange, (represents.modEq numeric).trans same⟩
  rw [represents.eq_wrap, otherRepresents.eq_wrap, agree]

/-! ## Casts -/

theorem castNumber?_of_integer? (integral : value.integer? = some number) :
    value.castNumber? = some number := by
  rw [castNumber?, integral, Option.some_or]

theorem cast_of_castNumber? (found : value.castNumber? = some number) (type : IntegralType) :
    value.cast type.name = type.wrap number := by
  simp only [cast, ofName?_name, found]

/-- What is no number stays as it is. -/
theorem cast_of_castNumber?_eq_none (none : value.castNumber? = none) (type : IntegralType) :
    value.cast type.name = value := by
  simp only [cast, ofName?_name, none]

/-- A second cast to the same type changes nothing. -/
theorem cast_cast_self (value : Value) (type : IntegralType) :
    (value.cast type.name).cast type.name = value.cast type.name := by
  cases found : value.castNumber? with
  | none => rw [cast_of_castNumber?_eq_none found, cast_of_castNumber?_eq_none found]
  | some number =>
      obtain ⟨held, represents⟩ := exists_represents_wrap type number
      rw [cast_of_castNumber? found,
        cast_of_castNumber? (castNumber?_of_integer? represents.number)]
      exact represents.eq_wrap.symm

/-- A cast on the way to a type that is at least as wide changes nothing. -/
theorem cast_cast_of_width_le (value : Value) (numeric : target ≠ .boolean)
    (viaNumeric : via ≠ .boolean) (wide : target.width ≤ via.width) :
    (value.cast via.name).cast target.name = value.cast target.name := by
  cases found : value.castNumber? with
  | none => rw [cast_of_castNumber?_eq_none found]
  | some number =>
      obtain ⟨held, represents⟩ := exists_represents_wrap via number
      have kept : held ≡ number [ZMOD 2 ^ target.width] :=
        (represents.modEq viaNumeric).of_dvd (pow_dvd_pow 2 wide)
      rw [cast_of_castNumber? found, cast_of_castNumber? found,
        cast_of_castNumber? (castNumber?_of_integer? represents.number)]
      exact wrap_congr numeric kept

/-- What casts to integral types make of a value that stands for a number. -/
structure CastLaws (value : Value) (number : Int) : Prop where
  /-- The result is the value of the one number of the type that agrees with the given number
  modulo two to the width of the type. -/
  modular : ∀ type : IntegralType, type ≠ .boolean → ∃ residue,
    (value.cast type.name).Represents type residue ∧
      ∀ other, type.InRange other ∧ other ≡ number [ZMOD 2 ^ type.width] ↔ other = residue
  /-- A cast to `boolean` asks whether the number is other than zero. -/
  boolean : value.cast IntegralType.boolean.name = .boolean (decide (number ≠ 0))
  /-- A second cast to the same type changes nothing. -/
  idempotent : ∀ type : IntegralType,
    (value.cast type.name).cast type.name = value.cast type.name
  /-- The number of the result lies in the range of the type. -/
  inRange : ∀ type : IntegralType, ∃ result,
    (value.cast type.name).integer? = some result ∧ type.InRange result
  /-- A cast on the way to a type that is at least as wide as the target changes nothing. -/
  composes : ∀ target via : IntegralType, target ≠ .boolean → via ≠ .boolean →
    target.width ≤ via.width → (value.cast via.name).cast target.name = value.cast target.name

/-- Casts keep integral values modulo two to the width of the target, and compose. -/
theorem castLaws (integral : value.integer? = some number) : value.CastLaws number := by
  have found := castNumber?_of_integer? integral
  refine ⟨?_, cast_of_castNumber? found .boolean, cast_cast_self value, ?_, ?_⟩
  · intro type numeric
    obtain ⟨residue, represents⟩ := exists_represents_wrap type number
    rw [cast_of_castNumber? found]
    exact ⟨residue, represents, fun other => represents.eq_iff numeric⟩
  · intro type
    obtain ⟨result, represents⟩ := exists_represents_wrap type number
    rw [cast_of_castNumber? found]
    exact ⟨result, represents.number, represents.inRange⟩
  · intro target via numeric viaNumeric
    exact cast_cast_of_width_le value numeric viaNumeric

/-- A number whose low 16 bits are those of a character and of a negative `short`. -/
theorem castLaws_wideLong :
    let value : Value := .long 8589967560
    value.integer? = some 8589967560 ∧
      value.cast "C" = .char 32968 ∧ value.cast "S" = .short (-32568) ∧
      (∃ residue, (value.cast "S").Represents .short residue ∧
        ∀ other, IntegralType.short.InRange other ∧ other ≡ 8589967560 [ZMOD 2 ^ 16] ↔
          other = residue) ∧
      (value.cast "C").cast "S" = value.cast "S" := by
  intro value
  have laws := castLaws (show value.integer? = some 8589967560 by decide)
  exact ⟨by decide, by decide, by decide, laws.modular .short (by decide),
    laws.composes .short .char (by decide) (by decide) (by decide)⟩

end Value

end Callsite
