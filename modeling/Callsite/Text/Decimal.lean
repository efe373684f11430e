/-!
# Decimal integers

Writing and reading of integers in base ten.  `ofNat` writes without leading
zeros; `natural?` and `integer?` also read numerals with leading zeros, and
`integer?` allows one sign in front.  `natural?_digits` and `integer?_ofInt` say
that reading recovers what was written.
-/

namespace Callsite.Decimal

/-- The character of a digit below ten. -/
def digitChar (digit : Nat) : Char :=
  Char.ofNat ('0'.toNat + digit)

/-- The value of an ASCII digit. -/
def digit? (character : Char) : Option Nat :=
  if '0'.toNat ≤ character.toNat ∧ character.toNat ≤ '9'.toNat then
    some (character.toNat - '0'.toNat)
  else
    none

/-- The digits of a number, most significant first. -/
def digits (number : Nat) : List Char :=
  if number < 10 then
    [digitChar number]
  else
    digits (number / 10) ++ [digitChar (number % 10)]

/-- The numeral of an integer, with `-` in front of a negative one. -/
def signedDigits (number : Int) : List Char :=
  match number with
  | .ofNat magnitude => digits magnitude
  | .negSucc predecessor => '-' :: digits (predecessor + 1)

/-- The text of a natural number. -/
def ofNat (number : Nat) : String :=
  String.ofList (digits number)

/-- The text of an integer. -/
def ofInt (number : Int) : String :=
  String.ofList (signedDigits number)

/-- Append one digit to the number read so far. -/
def push (number : Nat) (character : Char) : Option Nat :=
  (digit? character).map fun digit => 10 * number + digit

/-- The number a nonempty sequence of digits stands for. -/
def natural? : List Char → Option Nat
  | [] => none
  | head :: rest => (head :: rest).foldlM push 0

/-- The number that an optional sign and a nonempty sequence of digits stand
for. -/
def integer? : List Char → Option Int
  | '-' :: magnitude => (natural? magnitude).map fun number => -Int.ofNat number
  | '+' :: magnitude => (natural? magnitude).map Int.ofNat
  | magnitude => (natural? magnitude).map Int.ofNat

theorem digit?_digitChar {digit : Nat} (small : digit < 10) :
    digit? (digitChar digit) = some digit := by
  have every : ∀ digit : Fin 10, digit? (digitChar digit) = some digit.val := by
    decide
  exact every ⟨digit, small⟩

theorem digits_ne_nil (number : Nat) : digits number ≠ [] := by
  rw [digits]
  split <;> simp

theorem foldlM_push_digits (number : Nat) :
    (digits number).foldlM push 0 = some number := by
  induction number using digits.induct with
  | case1 number small =>
      rw [digits, if_pos small]
      simp [push, digit?_digitChar small]
  | case2 number large ih =>
      rw [digits, if_neg large, List.foldlM_append, ih]
      have small : number % 10 < 10 := Nat.mod_lt _ (by decide)
      simp [push, digit?_digitChar small]
      omega

/-- Reading recovers a number that was written. -/
@[simp] theorem natural?_digits (number : Nat) :
    natural? (digits number) = some number := by
  have read := foldlM_push_digits number
  cases written : digits number with
  | nil => exact absurd written (digits_ne_nil number)
  | cons head rest =>
      rw [written] at read
      exact read

/-- A numeral without a sign stands for the same number where a sign is allowed. -/
theorem integer?_of_natural? {text : List Char} {number : Nat}
    (read : natural? text = some number) : integer? text = some (number : Int) := by
  unfold integer?
  split
  · simp [natural?, push, digit?] at read
  · simp [natural?, push, digit?] at read
  · rw [read]
    rfl

theorem integer?_signedDigits (number : Int) : integer? (signedDigits number) = some number := by
  cases number with
  | ofNat magnitude => exact integer?_of_natural? (natural?_digits magnitude)
  | negSucc predecessor => simp [signedDigits, integer?, Int.negSucc_eq]

/-- Reading recovers an integer that was written. -/
@[simp] theorem integer?_ofInt (number : Int) :
    integer? (ofInt number).toList = some number := by
  rw [ofInt, String.toList_ofList, integer?_signedDigits]

end Callsite.Decimal
