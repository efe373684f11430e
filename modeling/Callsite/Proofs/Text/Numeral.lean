import Callsite.Text.Decimal
import Mathlib.Data.Nat.Digits.Defs

/-!
# Which texts are numerals

A numeral is an optional sign and at least one ASCII digit, leading zeros allowed, and it
stands for the positional value of its digits in base ten.  `natural?` and `integer?` read
numerals, all of them, and nothing else.
-/

namespace Callsite.Decimal

variable {text : List Char} {character : Char} {digit number start : Nat}

/-- A nonempty sequence of ASCII digits. -/
def IsDigits (text : List Char) : Prop :=
  text ≠ [] ∧ ∀ character ∈ text, character.isDigit = true

/-- The positional value of digits in base ten, the most significant one first. -/
def value (text : List Char) : Nat :=
  Nat.ofDigits 10 (text.reverse.map fun character => character.toNat - '0'.toNat)

/-- An optional sign and digits stand for an integer. -/
inductive Numeral : List Char → Int → Prop where
  | unsigned {text : List Char} : IsDigits text → Numeral text (value text)
  | positive {text : List Char} : IsDigits text → Numeral ('+' :: text) (value text)
  | negative {text : List Char} : IsDigits text → Numeral ('-' :: text) (-value text)

theorem value_nil : value [] = 0 := rfl

theorem value_cons (head : Char) (rest : List Char) :
    value (head :: rest) = (head.toNat - '0'.toNat) * 10 ^ rest.length + value rest := by
  simp only [value, List.reverse_cons, List.map_append, List.map_cons, List.map_nil,
    Nat.ofDigits_append, Nat.ofDigits_singleton, List.length_map, List.length_reverse]
  ring

theorem digit?_eq_some_iff :
    digit? character = some digit ↔
      character.isDigit = true ∧ digit = character.toNat - '0'.toNat := by
  have bounds : character.isDigit = true ↔
      '0'.toNat ≤ character.toNat ∧ character.toNat ≤ '9'.toNat := by
    rw [Char.isDigit, Bool.and_eq_true, decide_eq_true_iff, decide_eq_true_iff, ge_iff_le,
      UInt32.le_iff_toNat_le, UInt32.le_iff_toNat_le]
    rfl
  rw [bounds, digit?]
  split
  · next inside =>
      rw [Option.some.injEq, and_iff_right inside]
      exact eq_comm
  · next outside =>
      constructor
      · intro read
        cases read
      · intro read
        exact absurd read.1 outside

theorem push_eq_some_iff {after : Nat} :
    push start character = some after ↔
      character.isDigit = true ∧ after = 10 * start + (character.toNat - '0'.toNat) := by
  simp only [push, Option.map_eq_some_iff, digit?_eq_some_iff]
  constructor
  · rintro ⟨_, ⟨isDigit, rfl⟩, rfl⟩
    exact ⟨isDigit, rfl⟩
  · rintro ⟨isDigit, rfl⟩
    exact ⟨_, ⟨isDigit, rfl⟩, rfl⟩

/-- What was read before moves up by one place for each digit that follows. -/
theorem foldlM_push_eq_some_iff :
    text.foldlM push start = some number ↔
      (∀ character ∈ text, character.isDigit = true) ∧
        number = start * 10 ^ text.length + value text := by
  induction text generalizing start with
  | nil => simpa [value_nil] using eq_comm
  | cons head rest ih =>
      simp only [List.foldlM_cons, Option.bind_eq_bind, Option.bind_eq_some_iff,
        push_eq_some_iff, ih, List.forall_mem_cons, value_cons, List.length_cons]
      constructor
      · rintro ⟨_, ⟨isDigit, rfl⟩, areDigits, rfl⟩
        exact ⟨⟨isDigit, areDigits⟩, by ring⟩
      · rintro ⟨⟨isDigit, areDigits⟩, rfl⟩
        exact ⟨_, ⟨isDigit, rfl⟩, areDigits, by ring⟩

theorem natural?_eq_some_iff :
    natural? text = some number ↔ IsDigits text ∧ number = value text := by
  cases text with
  | nil => simp [natural?, IsDigits]
  | cons head rest =>
      rw [natural?, foldlM_push_eq_some_iff, IsDigits]
      simp

/-- A sign is no digit. -/
theorem not_isDigits_sign {sign : Char} {rest : List Char} (isSign : sign = '-' ∨ sign = '+') :
    ¬ IsDigits (sign :: rest) := by
  intro ⟨_, areDigits⟩
  have isDigit := areDigits sign (List.mem_cons_self ..)
  rcases isSign with rfl | rfl <;> cases isDigit

/-- Exactly the numerals are read, as what they stand for. -/
theorem integer?_eq_some_iff {number : Int} :
    integer? text = some number ↔ Numeral text number := by
  unfold integer?
  split
  · next rest =>
      simp only [Option.map_eq_some_iff, natural?_eq_some_iff]
      constructor
      · rintro ⟨_, ⟨areDigits, rfl⟩, rfl⟩
        exact .negative areDigits
      · intro numeral
        cases numeral with
        | unsigned areDigits => exact absurd areDigits (not_isDigits_sign (.inl rfl))
        | negative areDigits => exact ⟨_, ⟨areDigits, rfl⟩, rfl⟩
  · next rest =>
      simp only [Option.map_eq_some_iff, natural?_eq_some_iff]
      constructor
      · rintro ⟨_, ⟨areDigits, rfl⟩, rfl⟩
        exact .positive areDigits
      · intro numeral
        cases numeral with
        | unsigned areDigits => exact absurd areDigits (not_isDigits_sign (.inr rfl))
        | positive areDigits => exact ⟨_, ⟨areDigits, rfl⟩, rfl⟩
  · next notMinus notPlus =>
      simp only [Option.map_eq_some_iff, natural?_eq_some_iff]
      constructor
      · rintro ⟨_, ⟨areDigits, rfl⟩, rfl⟩
        exact .unsigned areDigits
      · intro numeral
        cases numeral with
        | unsigned areDigits => exact ⟨_, ⟨areDigits, rfl⟩, rfl⟩
        | positive _ => exact absurd rfl (notPlus _)
        | negative _ => exact absurd rfl (notMinus _)

end Callsite.Decimal
