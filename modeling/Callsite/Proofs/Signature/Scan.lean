import Callsite.Proofs.Signature.Descriptor
import Callsite.Signature.Scan

/-!
# Scanning parameter lists

A scan goes through a parameter list byte by byte.  The bytes it looks for are characters of
their own, wherever they stand in a text, so its position always lies between two
characters and it finds the descriptors that reading character by character finds.
-/

namespace Callsite.Signature

open Callsite.Text (byte? byte?_append_cons byte?_utf8ByteSize leadByte leadByte_eq_iff
  position? slice? slice?_append)

theorem lt_utf8ByteSize_append (before : String) {rest : List Char} (nonempty : rest ≠ []) :
    before.utf8ByteSize < (before ++ String.ofList rest).utf8ByteSize := by
  have positive : (String.ofList rest).utf8ByteSize ≠ 0 := by
    simpa [String.utf8ByteSize_eq_zero_iff] using nonempty
  rw [String.utf8ByteSize_append]
  omega

theorem utf8ByteSize_of_isValueLetter {letter : Char} (value : isValueLetter letter = true) :
    (String.ofList [letter]).utf8ByteSize = 1 := by
  have each : ['Z', 'B', 'S', 'C', 'I', 'J', 'F', 'D'].all
      (fun letter => (String.ofList [letter]).utf8ByteSize == 1) = true := by decide
  exact eq_of_beq (List.all_eq_true.mp each letter (List.contains_iff_mem.mp value))

/-- A byte is the letter of a primitive exactly if it starts such a letter. -/
theorem isValueByte_leadByte (character : Char) :
    isValueByte (leadByte character) = isValueLetter character := by
  have listed (letters : List Char)
      (ascii : letters.all (fun letter => decide (letter.toNat < 128)) = true) :
      leadByte character ∈ letters.map Char.toUInt8 ↔ character ∈ letters := by
    have small {letter : Char} (member : letter ∈ letters) : letter.toNat < 128 :=
      of_decide_eq_true (List.all_eq_true.mp ascii letter member)
    rw [List.mem_map]
    constructor
    · rintro ⟨letter, member, same⟩
      rwa [(leadByte_eq_iff (small member)).mp same.symm]
    · intro member
      exact ⟨character, member, ((leadByte_eq_iff (small member)).mpr rfl).symm⟩
  rw [isValueByte, isValueLetter, Bool.eq_iff_iff, List.contains_iff_mem, List.contains_iff_mem]
  exact listed _ (by decide)

theorem ofList_bracket (rest : List Char) :
    String.ofList ('[' :: rest) = "[" ++ String.ofList rest := by
  rw [← List.singleton_append, String.ofList_append]

theorem skipBrackets_bracket (before : String) (rest : List Char) :
    skipBrackets (before ++ String.ofList ('[' :: rest)) before.utf8ByteSize =
      skipBrackets (before ++ String.ofList ('[' :: rest)) (before.utf8ByteSize + 1) := by
  rw [skipBrackets, dif_pos]
  rw [byte?_append_cons]
  rfl

theorem skipBrackets_other {before : String} {character : Char} {rest : List Char}
    (other : character ≠ '[') :
    skipBrackets (before ++ String.ofList (character :: rest)) before.utf8ByteSize =
      before.utf8ByteSize := by
  rw [skipBrackets, dif_neg]
  rw [byte?_append_cons, Option.some.injEq, leadByte_eq_iff (by decide)]
  exact other

/-- Where a descriptor ends that was read from a position on. -/
def endOf (start : Nat) : Option (List Char × List Char) → Except ScanFailure Nat
  | none => .error .malformed
  | some (found, _) => .ok (start + (String.ofList found).utf8ByteSize)

/-- The end of a class is found by its semicolon. -/
theorem position?_semicolon (rest : List Char) :
    position? ';' (String.ofList ('L' :: rest)) =
      (Text.cut? [';'] rest).map fun parts => (String.ofList ('L' :: parts.1)).utf8ByteSize := by
  have passed : Text.cut? [';'] ('L' :: rest) =
      (Text.cut? [';'] rest).map fun parts => ('L' :: parts.1, parts.2) := by
    rw [Text.cut?, if_neg (by simp)]
  rw [position?, String.toList_ofList, passed, Option.map_map]
  rfl

/-- An element ends where reading it character by character ends. -/
theorem elementEnd_append {before : String} {head : Char} {tail : List Char}
    (element : head ≠ '[') :
    elementEnd (before ++ String.ofList (head :: tail)) before.utf8ByteSize =
      endOf before.utf8ByteSize (descriptor? (head :: tail)) := by
  have remaining : slice? (before ++ String.ofList (head :: tail)) before.utf8ByteSize
      (before ++ String.ofList (head :: tail)).utf8ByteSize =
        some (String.ofList (head :: tail)) := by
    have cut := slice?_append before (String.ofList (head :: tail)) ""
    rwa [String.append_empty, ← String.utf8ByteSize_append] at cut
  rw [elementEnd, byte?_append_cons, descriptor?, if_neg element]
  simp only [leadByte_eq_iff (show 'L'.toNat < 128 by decide), isValueByte_leadByte, remaining]
  split
  · next letter =>
      subst letter
      rw [position?_semicolon]
      cases Text.cut? [';'] tail with
      | none => rfl
      | some parts =>
          have semicolon : (String.ofList [';']).utf8ByteSize = 1 := by decide
          simp only [Option.map_some, endOf, ← List.cons_append, String.ofList_append,
            String.utf8ByteSize_append, semicolon, Nat.add_assoc]
  · split
    · next value => rw [endOf, utf8ByteSize_of_isValueLetter value]
    · rfl

/-- A descriptor ends where reading it character by character ends. -/
theorem descriptorEnd_append (before : String) (rest : List Char) :
    descriptorEnd (before ++ String.ofList rest) before.utf8ByteSize =
      endOf before.utf8ByteSize (descriptor? rest) := by
  induction rest generalizing before with
  | nil =>
      have ended := byte?_utf8ByteSize before
      rw [String.ofList_nil, String.append_empty, descriptorEnd, skipBrackets, dif_neg,
        elementEnd, ended]
      · rfl
      · simp [ended]
  | cons head tail ih =>
      by_cases bracket : head = '['
      · subst bracket
        have split : before ++ String.ofList ('[' :: tail) =
            before ++ "[" ++ String.ofList tail := by
          rw [ofList_bracket, String.append_assoc]
        have moved : before.utf8ByteSize + 1 = (before ++ "[").utf8ByteSize := by
          rw [String.utf8ByteSize_append]
          rfl
        rw [descriptorEnd, skipBrackets_bracket, split, moved, ← descriptorEnd, ih, descriptor?,
          if_pos rfl]
        cases descriptor? tail with
        | none => rfl
        | some parts =>
            simp only [Option.map_some, endOf, ofList_bracket, String.utf8ByteSize_append,
              Nat.add_assoc]
      · rw [descriptorEnd, skipBrackets_other bracket, elementEnd_append bracket]

/-- What a scan comes to that has found some types when the rest of the text is read. -/
def scanned (found : List TypeName) : Option (List TypeName) → Except ScanFailure (List TypeName)
  | none => .error .malformed
  | some types => .ok (found ++ types)

/-- A scan goes on as reading character by character does. -/
theorem scanFrom_append (before : String) (found : List TypeName) (rest : List Char) :
    scanFrom (before ++ String.ofList rest) found before.utf8ByteSize =
      scanned found (parameters? rest) := by
  fun_induction parameters? rest generalizing before found with
  | case1 =>
      rw [String.ofList_nil, String.append_empty, scanFrom, if_neg (Nat.lt_irrefl _), scanned,
        List.append_nil]
  | case2 rest nonempty unread =>
      have ended := descriptorEnd_append before rest
      rw [scanFrom_eq, if_pos (lt_utf8ByteSize_append before nonempty), ended, unread]
      rfl
  | case3 rest nonempty type remaining read _ ih =>
      have ended := descriptorEnd_append before rest
      have split : before ++ String.ofList rest =
          before ++ String.ofList type ++ String.ofList remaining := by
        rw [(descriptor?_eq_some read).1, String.ofList_append, String.append_assoc]
      rw [scanFrom_eq, if_pos (lt_utf8ByteSize_append before nonempty), ended, read]
      simp only [endOf]
      rw [split, slice?_append, ← String.utf8ByteSize_append]
      simp only
      rw [ih]
      cases parameters? remaining with
      | none => rfl
      | some others => simp [scanned]

theorem scan_eq_scanned (text : String) :
    scan text = scanned [] (parameters? text.toList) := by
  have whole := scanFrom_append "" [] text.toList
  rwa [String.ofList_toList, String.empty_append] at whole

theorem scan_eq_ok_iff {text : String} {types : List TypeName} :
    scan text = .ok types ↔ parameters? text.toList = some types := by
  rw [scan_eq_scanned]
  cases parameters? text.toList <;> simp [scanned]

theorem scan_eq_malformed_iff {text : String} :
    scan text = .error .malformed ↔ parameters? text.toList = none := by
  rw [scan_eq_scanned]
  cases parameters? text.toList <;> simp [scanned]

/-- A scan never cuts within a character. -/
theorem scan_ne_withinCharacter (text : String) (start stop : Nat) :
    scan text ≠ .error (.withinCharacter start stop) := by
  rw [scan_eq_scanned]
  cases parameters? text.toList <;> simp [scanned]

/-- A parameter list is read in the one way in which it is made of descriptors, if there is
one.  Going through its bytes finds the same, and comes to an end without ever cutting
within a character. -/
theorem parameterLists_exact (text : String) :
    (∀ types, parameters? text.toList = some types ↔ Lists text types) ∧
      (∀ types others, Lists text types → Lists text others → types = others) ∧
      (parameters? text.toList = none ↔ ¬ ∃ types, Lists text types) ∧
      (∀ types, scan text = .ok types ↔ Lists text types) ∧
      (scan text = .error .malformed ↔ ¬ ∃ types, Lists text types) ∧
      ∀ start stop, scan text ≠ .error (.withinCharacter start stop) := by
  refine ⟨fun types => parameters?_eq_some_iff, fun types others => Lists.unique,
    parameters?_eq_none_iff, ?_, ?_, scan_ne_withinCharacter text⟩
  · intro types
    exact scan_eq_ok_iff.trans parameters?_eq_some_iff
  · exact scan_eq_malformed_iff.trans parameters?_eq_none_iff

end Callsite.Signature
