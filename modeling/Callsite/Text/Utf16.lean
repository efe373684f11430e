/-!
# UTF-16 code units

A character above `U+FFFF` is two units, a surrogate pair; any other character
is one.  Lengths and positions of strings in the analyzed program count these
units.
-/

namespace Callsite.Utf16

/-- The code units of one character. -/
def encode (character : Char) : List UInt16 :=
  let code := character.toNat
  if code < 0x10000 then
    [UInt16.ofNat code]
  else
    [UInt16.ofNat (0xD800 + (code - 0x10000) / 0x400),
      UInt16.ofNat (0xDC00 + (code - 0x10000) % 0x400)]

/-- The code units of a text. -/
def units (text : String) : List UInt16 :=
  text.toList.flatMap encode

/-- Whether a unit is half of a surrogate pair and so no character by itself. -/
def isSurrogate (unit : UInt16) : Bool :=
  0xD800 ≤ unit && unit ≤ 0xDFFF

@[simp] theorem units_append (left right : String) :
    units (left ++ right) = units left ++ units right := by
  simp [units]

theorem encode_ne_nil (character : Char) : encode character ≠ [] := by
  unfold encode
  dsimp only
  split <;> simp

end Callsite.Utf16
