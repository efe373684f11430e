import Callsite.Text.Utf16

/-!
# Reading characters off their UTF-16 units

No character is encoded as half of a surrogate pair, so the units of a text tell where each
character ends and which one it is: two texts of the same units are the same text.
-/

namespace Callsite.Utf16

variable {left right : Char} {rest others : List UInt16}

/-- A character is one unit that is no half of a pair, or a pair that tells its distance from
the first character beyond single units. -/
inductive Encoded (character : Char) : List UInt16 → Prop where
  | single {unit : UInt16} : unit.toNat = character.toNat →
      unit.toNat < 0xD800 ∨ 0xDFFF < unit.toNat → Encoded character [unit]
  | pair {high low : UInt16} (upper lower : Nat) :
      character.toNat = 0x10000 + (0x400 * upper + lower) → upper < 0x400 → lower < 0x400 →
      high.toNat = 0xD800 + upper → low.toNat = 0xDC00 + lower →
      Encoded character [high, low]

theorem encoded_encode (character : Char) : Encoded character (encode character) := by
  have valid : character.toNat < 0xD800 ∨
      0xDFFF < character.toNat ∧ character.toNat < 0x110000 := character.valid
  have toNat_ofNat {number : Nat} (fits : number < 0x10000) :
      (UInt16.ofNat number).toNat = number := Nat.mod_eq_of_lt fits
  unfold encode
  dsimp only
  split
  · next small =>
      refine .single (toNat_ofNat small) ?_
      rw [toNat_ofNat small]
      omega
  · next large =>
      refine .pair ((character.toNat - 0x10000) / 0x400) ((character.toNat - 0x10000) % 0x400)
        ?_ ?_ ?_ (toNat_ofNat ?_) (toNat_ofNat ?_) <;> omega

/-- The units of a character tell where they end and which character it is. -/
theorem encode_append_inj (same : encode left ++ rest = encode right ++ others) :
    left = right ∧ rest = others := by
  have leftEncoded := encoded_encode left
  have rightEncoded := encoded_encode right
  generalize encode left = leftUnits at same leftEncoded
  generalize encode right = rightUnits at same rightEncoded
  cases leftEncoded with
  | single leftCode leftAlone =>
      cases rightEncoded with
      | single rightCode _ =>
          cases same
          exact ⟨Char.toNat_inj.mp (leftCode.symm.trans rightCode), rfl⟩
      | pair _ _ _ upperSmall _ rightHigh _ =>
          cases same
          omega
  | pair _ _ leftCode upperSmall _ leftHigh leftLow =>
      cases rightEncoded with
      | single _ rightAlone =>
          cases same
          omega
      | pair _ _ rightCode _ _ rightHigh rightLow =>
          cases same
          exact ⟨Char.toNat_inj.mp (by omega), rfl⟩

theorem flatMap_encode_inj {left right : List Char}
    (same : left.flatMap encode = right.flatMap encode) : left = right := by
  induction left generalizing right with
  | nil =>
      cases right with
      | nil => rfl
      | cons head rest => simp [encode_ne_nil] at same
  | cons head rest ih =>
      cases right with
      | nil => simp [encode_ne_nil] at same
      | cons other others =>
          obtain ⟨rfl, later⟩ := encode_append_inj same
          rw [ih later]

/-- Texts of the same units are the same. -/
theorem units_inj {left right : String} : units left = units right ↔ left = right := by
  constructor
  · intro same
    exact String.toList_injective (flatMap_encode_inj same)
  · exact congrArg units

end Callsite.Utf16
