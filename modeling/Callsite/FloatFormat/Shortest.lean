import Callsite.FloatFormat
import Callsite.Text.Decimal

/-!
# Shortest decimal text of a floating-point number

Of the decimals that read back as a given number, `shortest` takes one with the
fewest digits, and of those the nearest; the larger one if two are equally near.
The search tests, for one digit, two digits and so on, the two neighbours of the
number on that decimal grid.
-/

namespace Callsite.FloatFormat

-- Powers are those of the core library, also where another library adds its own.
attribute [local instance (high)] instPowNat

/-- A fraction of two natural numbers. -/
structure Ratio where
  numerator : Nat
  denominator : Nat

/-- The number `mantissa * 2 ^ exponent`. -/
def Ratio.ofScaled (mantissa : Nat) (exponent : Int) : Ratio :=
  if 0 ≤ exponent then
    ⟨mantissa * 2 ^ exponent.toNat, 1⟩
  else
    ⟨mantissa, 2 ^ (-exponent).toNat⟩

/-- The number in units of `10 ^ exponent`. -/
def Ratio.inUnits (ratio : Ratio) (exponent : Int) : Ratio :=
  if 0 ≤ exponent then
    ⟨ratio.numerator, ratio.denominator * 10 ^ exponent.toNat⟩
  else
    ⟨ratio.numerator * 10 ^ (-exponent).toNat, ratio.denominator⟩

/-- The least `length` for which the number is below `10 ^ length`. -/
def Ratio.decimalLength (ratio : Ratio) : Int :=
  let places := ratio.denominator.log2
  let whole := ratio.numerator * 10 ^ places / ratio.denominator
  Int.ofNat (Decimal.digits whole).length - Int.ofNat places

/-- Drop trailing zeros from `digits * 10 ^ exponent`, at most `limit` of
them. -/
def dropZeros : Nat → Nat → Int → Nat × Int
  | 0, digits, exponent => (digits, exponent)
  | limit + 1, digits, exponent =>
      if digits % 10 = 0 ∧ digits ≠ 0 then
        dropZeros limit (digits / 10) (exponent + 1)
      else
        (digits, exponent)

/-- The decimal `digits * 10 ^ exponent` with the given number of digits that
reads back as the number, if there is one.  Four times the number is
`4 * mantissa`, so that both ends of the interval that rounds to it are whole:
the lower end is half as far away when the mantissa is the least of its binary
order.  The ends belong to the interval if the mantissa is even. -/
def decimalOfLength? (format : FloatFormat) (mantissa : Nat) (exponent : Int)
    (length : Nat) : Option (Nat × Int) :=
  let below :=
    if mantissa = 2 ^ format.fractionBits ∧ format.leastExponent < exponent then 1 else 2
  let value := Ratio.ofScaled (4 * mantissa) (exponent - 2)
  let unit := value.decimalLength - Int.ofNat length
  let scaled := value.inUnits unit
  let lower := (Ratio.ofScaled (4 * mantissa - below) (exponent - 2)).inUnits unit
  let upper := (Ratio.ofScaled (4 * mantissa + 2) (exponent - 2)).inUnits unit
  let closed := mantissa % 2 = 0
  let down := scaled.numerator / scaled.denominator
  let up := down + 1
  let downReads :=
    lower.numerator < down * lower.denominator ∨
      closed ∧ lower.numerator = down * lower.denominator
  let upReads :=
    up * upper.denominator < upper.numerator ∨
      closed ∧ up * upper.denominator = upper.numerator
  let upNearer := scaled.denominator ≤ 2 * (scaled.numerator % scaled.denominator)
  if upReads ∧ (¬ downReads ∨ upNearer) then
    some (dropZeros (length + 1) up unit)
  else if downReads then
    some (dropZeros (length + 1) down unit)
  else
    none

/-- The shortest decimal that reads back as `mantissa * 2 ^ exponent`, as its
digits and the exponent of their last place.  Seventeen digits always suffice
for both formats. -/
def shortest (format : FloatFormat) (mantissa : Nat) (exponent : Int) : Nat × Int :=
  match (List.range' 1 17).findSome? (decimalOfLength? format mantissa exponent) with
  | some decimal => decimal
  | none => (0, 0)

/-- The decimal `digits * 10 ^ exponent` written out in full, without an
exponent. -/
def positional (digits : Nat) (exponent : Int) : List Char :=
  let numeral := Decimal.digits digits
  if 0 ≤ exponent then
    numeral ++ List.replicate exponent.toNat '0'
  else
    let places := (-exponent).toNat
    if places < numeral.length then
      numeral.take (numeral.length - places) ++ '.' ::
        numeral.drop (numeral.length - places)
    else
      ['0', '.'] ++ List.replicate (places - numeral.length) '0' ++ numeral

/-- The text of a word of the format. -/
def text (format : FloatFormat) (word : Nat) : String :=
  match format.decode word with
  | .nan => "NaN"
  | .infinity negative => if negative then "-inf" else "inf"
  | .finite negative mantissa exponent =>
      let magnitude :=
        if mantissa = 0 then
          ['0']
        else
          let decimal := format.shortest mantissa exponent
          positional decimal.1 decimal.2
      String.ofList (if negative then '-' :: magnitude else magnitude)

end Callsite.FloatFormat
