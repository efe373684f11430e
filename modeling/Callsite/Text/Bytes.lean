import Callsite.Text.Cut

/-!
# Text by byte positions

A position in a text can be a number of bytes of its UTF-8 coding.  Not every number is
the position of a character: `slice?` cuts text between two positions and refuses those
that are not, and `byte?` reads single bytes.  A byte of the ASCII range is a character of
its own wherever it stands (`leadByte_eq_iff`).
-/

namespace Callsite.Text

/-- The byte at a position. -/
def byte? (text : String) (position : Nat) : Option UInt8 :=
  text.toByteArray[position]?

/-- The text between two positions.  There is none if one of them lies within a character or
beyond the end, or if they are in the wrong order. -/
def slice? (text : String) (start stop : Nat) : Option String :=
  if valid : String.Pos.Raw.IsValid text ⟨start⟩ ∧ String.Pos.Raw.IsValid text ⟨stop⟩ ∧
      start ≤ stop then
    some (String.extract (text.pos ⟨start⟩ valid.1) (text.pos ⟨stop⟩ valid.2.1))
  else
    none

/-- The position of the first occurrence of a character. -/
def position? (character : Char) (text : String) : Option Nat :=
  (cut? [character] text.toList).map fun parts => (String.ofList parts.1).utf8ByteSize

/-- The byte that the coding of a character starts with. -/
def leadByte (character : Char) : UInt8 :=
  (String.utf8EncodeChar character).headD 0

theorem lt_utf8ByteSize_of_byte? {text : String} {position : Nat} {byte : UInt8}
    (found : byte? text position = some byte) : position < text.utf8ByteSize := by
  rw [← String.size_toByteArray]
  exact (getElem?_eq_some_iff.mp found).1

theorem byte?_utf8ByteSize (text : String) : byte? text text.utf8ByteSize = none := by
  rw [byte?, getElem?_neg]
  simp

/-- The byte after a text is the first byte of the next character. -/
theorem byte?_append_cons (before : String) (character : Char) (after : List Char) :
    byte? (before ++ String.ofList (character :: after)) before.utf8ByteSize =
      some (leadByte character) := by
  have coded : (String.ofList (character :: after)).toByteArray =
      (String.utf8EncodeChar character ++ after.flatMap String.utf8EncodeChar).toByteArray := by
    rw [String.toByteArray_ofList, List.utf8Encode, List.flatMap_cons]
  obtain ⟨lead, others, starts⟩ :=
    List.exists_cons_of_ne_nil (String.utf8EncodeChar_ne_nil (c := character))
  rw [byte?, String.toByteArray_append, coded, leadByte, starts, getElem?_pos]
  · rw [ByteArray.getElem_append_right (by simp), List.getElem_toByteArray]
    simp
  · simp

theorem isValid_append (before after : String) :
    String.Pos.Raw.IsValid (before ++ after) ⟨before.utf8ByteSize⟩ :=
  String.Pos.Raw.isValid_iff_exists_append.mpr ⟨before, after, rfl, rfl⟩

/-- Text between other text is cut out by the positions where it starts and ends. -/
theorem slice?_append (before middle after : String) :
    slice? (before ++ middle ++ after) before.utf8ByteSize
      (before.utf8ByteSize + middle.utf8ByteSize) = some middle := by
  have start : String.Pos.Raw.IsValid (before ++ middle ++ after) ⟨before.utf8ByteSize⟩ := by
    rw [String.append_assoc]
    exact isValid_append before (middle ++ after)
  have stop : String.Pos.Raw.IsValid (before ++ middle ++ after)
      ⟨before.utf8ByteSize + middle.utf8ByteSize⟩ := by
    rw [← String.utf8ByteSize_append]
    exact isValid_append (before ++ middle) after
  have cut : (before.toByteArray ++ middle.toByteArray).extract before.utf8ByteSize
      (before.utf8ByteSize + middle.utf8ByteSize) = middle.toByteArray :=
    ByteArray.extract_append_eq_right (by simp) (by simp)
  rw [slice?, dif_pos ⟨start, stop, Nat.le_add_right _ _⟩, Option.some.injEq,
    ← String.toByteArray_inj, String.toByteArray_extract, String.offset_pos, String.offset_pos,
    String.toByteArray_append, String.toByteArray_append, ByteArray.extract_append, cut]
  simp

theorem toNat_toUInt8 {letter : Char} (ascii : letter.toNat < 128) :
    letter.toUInt8.toNat = letter.toNat := by
  have small : letter.val.toNat < 128 := ascii
  rw [Char.toUInt8, UInt32.toNat_toUInt8]
  exact Nat.mod_eq_of_lt (by omega)

theorem leadByte_of_lt {character : Char} (ascii : character.toNat < 128) :
    leadByte character = character.toUInt8 := by
  have small : character.val.toNat < 128 := ascii
  have short : character.utf8Size = 1 := by
    rw [Char.utf8Size_eq_one_iff, UInt32.le_iff_toNat_le]
    exact Nat.le_of_lt_succ small
  rw [leadByte, String.utf8EncodeChar_eq_singleton short]
  rfl

/-- The coding of any other character starts with another byte. -/
theorem le_toNat_leadByte {character : Char} (other : 128 ≤ character.toNat) :
    128 ≤ (leadByte character).toNat := by
  have large : ¬ character.val.toNat ≤ 127 := by
    have other : 128 ≤ character.val.toNat := other
    omega
  simp only [leadByte, String.utf8EncodeChar, if_neg large]
  split
  · simp only [List.headD_cons, UInt8.toNat_ofNat']
    omega
  · split
    · simp only [List.headD_cons, UInt8.toNat_ofNat']
      omega
    · simp only [List.headD_cons, UInt8.toNat_ofNat']
      omega

/-- An ASCII byte starts the coding of its character only. -/
theorem leadByte_eq_iff {character letter : Char} (ascii : letter.toNat < 128) :
    leadByte character = letter.toUInt8 ↔ character = letter := by
  constructor
  · intro same
    have bytes := congrArg UInt8.toNat same
    rw [toNat_toUInt8 ascii] at bytes
    have alsoAscii : character.toNat < 128 := by
      apply Nat.lt_of_not_le
      intro other
      have large := le_toNat_leadByte other
      omega
    rw [leadByte_of_lt alsoAscii, toNat_toUInt8 alsoAscii] at bytes
    exact Char.toNat_inj.mp bytes
  · rintro rfl
    exact leadByte_of_lt ascii

end Callsite.Text
