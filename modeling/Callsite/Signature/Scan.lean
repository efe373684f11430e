import Callsite.Signature
import Callsite.Text.Bytes

/-!
# Parameter lists by byte positions

A parameter list can be read by moving a position over the bytes of its text and cutting
out a type wherever a descriptor ends.  `scan` does so and tells the two ways to fail
apart: text that is no parameter list, and a cut within a character.
-/

namespace Callsite.Signature

open Callsite.Text (byte? position? slice?)

/-- Why a scan ends without a result. -/
inductive ScanFailure where
  /-- The text is no parameter list. -/
  | malformed
  /-- Text was to be cut where a character does not end. -/
  | withinCharacter (start stop : Nat)
  deriving DecidableEq

/-- Whether a byte is the descriptor of a primitive that has values. -/
def isValueByte (byte : UInt8) : Bool :=
  (['Z', 'B', 'S', 'C', 'I', 'J', 'F', 'D'].map Char.toUInt8).contains byte

/-- The position behind all brackets that follow a position. -/
def skipBrackets (text : String) (position : Nat) : Nat :=
  if bracket : byte? text position = some '['.toUInt8 then
    skipBrackets text (position + 1)
  else
    position
termination_by text.utf8ByteSize - position
decreasing_by
  have := Text.lt_utf8ByteSize_of_byte? bracket
  omega

/-- The position where the descriptor ends that starts at a position without brackets. -/
def elementEnd (text : String) (start : Nat) : Except ScanFailure Nat :=
  match byte? text start with
  | none => .error .malformed
  | some byte =>
      if byte = 'L'.toUInt8 then
        match slice? text start text.utf8ByteSize with
        | none => .error (.withinCharacter start text.utf8ByteSize)
        | some rest =>
            match position? ';' rest with
            | none => .error .malformed
            | some offset => .ok (start + offset + 1)
      else if isValueByte byte then
        .ok (start + 1)
      else
        .error .malformed

/-- The position where the descriptor ends that starts at a position. -/
def descriptorEnd (text : String) (start : Nat) : Except ScanFailure Nat :=
  elementEnd text (skipBrackets text start)

theorem le_skipBrackets (text : String) (position : Nat) :
    position ≤ skipBrackets text position := by
  fun_induction skipBrackets text position with
  | case1 position _ ih => omega
  | case2 => exact Nat.le_refl _

theorem lt_of_elementEnd {text : String} {start stop : Nat}
    (ended : elementEnd text start = .ok stop) : start < stop := by
  rw [elementEnd] at ended
  split at ended
  · cases ended
  · split at ended
    · split at ended
      · cases ended
      · split at ended
        · cases ended
        · cases ended
          omega
    · split at ended
      · cases ended
        omega
      · cases ended

/-- Every descriptor moves the position on. -/
theorem lt_of_descriptorEnd {text : String} {start stop : Nat}
    (ended : descriptorEnd text start = .ok stop) : start < stop :=
  Nat.lt_of_le_of_lt (le_skipBrackets text start) (lt_of_elementEnd ended)

/-- The types that a parameter list consists of, from a position on, after those that were
found before it. -/
def scanFrom (text : String) (found : List TypeName) (start : Nat) :
    Except ScanFailure (List TypeName) :=
  if start < text.utf8ByteSize then
    match ended : descriptorEnd text start with
    | .error failure => .error failure
    | .ok stop =>
        have : start < stop := lt_of_descriptorEnd ended
        match slice? text start stop with
        | none => .error (.withinCharacter start stop)
        | some type => scanFrom text (found ++ [type]) stop
  else
    .ok found
termination_by text.utf8ByteSize - start

theorem scanFrom_eq (text : String) (found : List TypeName) (start : Nat) :
    scanFrom text found start =
      if start < text.utf8ByteSize then
        match descriptorEnd text start with
        | .error failure => .error failure
        | .ok stop =>
            match slice? text start stop with
            | none => .error (.withinCharacter start stop)
            | some type => scanFrom text (found ++ [type]) stop
      else
        .ok found := by
  rw [scanFrom]
  congr 1
  split <;> simp [*]

/-- The types that a parameter list consists of. -/
def scan (text : String) : Except ScanFailure (List TypeName) :=
  scanFrom text [] 0

end Callsite.Signature
