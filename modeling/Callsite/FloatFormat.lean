/-!
# Binary floating-point formats

A format fixes how many bits of a word hold the exponent and the fraction.
`decode` reads a word as an exact number `± mantissa * 2 ^ exponent`, and `encode`
finds the word nearest to such a number, a tie going to the even neighbour.  All
arithmetic is on integers, so both are exact.
-/

namespace Callsite

-- Powers are those of the core library, also where another library adds its own.
attribute [local instance (high)] instPowNat

/-- What a word of a binary floating-point format stands for. -/
inductive FloatDatum where
  | nan
  | infinity (negative : Bool)
  /-- The number `mantissa * 2 ^ exponent`, with a minus sign if `negative`. -/
  | finite (negative : Bool) (mantissa : Nat) (exponent : Int)
  deriving DecidableEq, Repr

/-- The sizes of the two fields after the sign bit. -/
structure FloatFormat where
  exponentBits : Nat
  fractionBits : Nat
  deriving DecidableEq, Repr

namespace FloatDatum

/-- An integer as an exact number. -/
def ofInt (number : Int) : FloatDatum :=
  .finite (decide (number < 0)) number.natAbs 0

/-- The integer part of a number, kept within the given bounds.  What is not a
number counts as zero. -/
def truncate (lowest highest : Int) : FloatDatum → Int
  | .nan => 0
  | .infinity negative => if negative then lowest else highest
  | .finite negative mantissa exponent =>
      let magnitude : Nat :=
        if 0 ≤ exponent then
          mantissa * 2 ^ exponent.toNat
        else
          mantissa / 2 ^ (-exponent).toNat
      let number : Int := if negative then -Int.ofNat magnitude else Int.ofNat magnitude
      max lowest (min highest number)

end FloatDatum

namespace FloatFormat

/-- The format of `float` values. -/
def single : FloatFormat := ⟨8, 23⟩

/-- The format of `double` values. -/
def double : FloatFormat := ⟨11, 52⟩

variable (format : FloatFormat)

/-- The exponent field of infinities and of what is not a number. -/
def topField : Nat := 2 ^ format.exponentBits - 1

/-- The weight of the last fraction bit of the smallest numbers, as an exponent
of two. -/
def leastExponent : Int :=
  2 - Int.ofNat (2 ^ (format.exponentBits - 1)) - Int.ofNat format.fractionBits

/-- The word of infinity without its sign. -/
def infinityWord : Nat := format.topField * 2 ^ format.fractionBits

/-- The sign bit of a word. -/
def signWord (negative : Bool) : Nat :=
  if negative then 2 ^ (format.exponentBits + format.fractionBits) else 0

/-- What a word stands for. -/
def decode (word : Nat) : FloatDatum :=
  let fraction := word % 2 ^ format.fractionBits
  let field := word / 2 ^ format.fractionBits % 2 ^ format.exponentBits
  let negative := word / 2 ^ (format.exponentBits + format.fractionBits) % 2 == 1
  if field = format.topField then
    if fraction = 0 then .infinity negative else .nan
  else if field = 0 then
    .finite negative fraction format.leastExponent
  else
    .finite negative (2 ^ format.fractionBits + fraction)
      (format.leastExponent + Int.ofNat (field - 1))

/-- The quotient of two integers rounded to the nearest integer, a tie going to
the even one. -/
def divideToEven (numerator denominator : Nat) : Nat :=
  let quotient := numerator / denominator
  let doubled := 2 * (numerator % denominator)
  if denominator < doubled then
    quotient + 1
  else if doubled = denominator then
    quotient + quotient % 2
  else
    quotient

/-- The word, without its sign, nearest to `mantissa * 2 ^ exponent`.  The
hidden leading bit of a normal number carries into the exponent field, and so
does a mantissa that rounding makes one bit longer. -/
def magnitudeWord (mantissa : Nat) (exponent : Int) : Nat :=
  if mantissa = 0 then
    0
  else
    let last := max format.leastExponent
      (exponent + Int.ofNat mantissa.log2 - Int.ofNat format.fractionBits)
    let kept :=
      if last ≤ exponent then
        mantissa * 2 ^ (exponent - last).toNat
      else
        divideToEven mantissa (2 ^ (last - exponent).toNat)
    min format.infinityWord
      ((last - format.leastExponent).toNat * 2 ^ format.fractionBits + kept)

/-- The word nearest to a number.  There is one word for what is not a number:
no sign, and the first fraction bit set. -/
def encode : FloatDatum → Nat
  | .nan => format.infinityWord + 2 ^ (format.fractionBits - 1)
  | .infinity negative => format.signWord negative + format.infinityWord
  | .finite negative mantissa exponent =>
      format.signWord negative + format.magnitudeWord mantissa exponent

end FloatFormat

end Callsite
