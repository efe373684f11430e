/-!
# Hexadecimal numerals

Lower-case numerals in base sixteen, as code addresses are written.
-/

namespace Callsite.Hexadecimal

/-- The text of a number in base sixteen, without leading zeros. -/
def ofNat (number : Nat) : String :=
  String.ofList (Nat.toDigits 16 number)

/-- The text of a code address: its numeral after `0x`. -/
def address (number : Nat) : String :=
  "0x" ++ ofNat number

/-- The text of a number in base sixteen, filled with zeros to `width` digits. -/
def padded (width number : Nat) : String :=
  let digits := Nat.toDigits 16 number
  String.ofList (List.replicate (width - digits.length) '0' ++ digits)

end Callsite.Hexadecimal
