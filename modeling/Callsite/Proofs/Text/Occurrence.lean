import Callsite.Text.Cut
import Mathlib.Data.List.Infix

/-!
# Occurrences of a pattern

A search finds a pattern wherever it stands in a text.  If the first character of the pattern
occurs in it only once, its copies do not overlap: text that is cut at the first copy has all
others behind the cut, and the pattern stands at one position exactly if there are none.
-/

namespace Callsite.Text

/-- A search finds a pattern exactly if it stands in the text. -/
theorem occursIn_iff {pattern text : List Char} :
    occursIn pattern text = true ↔ pattern <:+: text := by
  induction text with
  | nil =>
      rw [occursIn, cut?, List.infix_nil]
      split <;> simp [*]
  | cons head rest ih =>
      rw [occursIn, cut?, List.infix_cons_iff, ← List.isPrefixOf_iff_prefix]
      split
      · next here => simp [here]
      · next elsewhere =>
          rw [Option.isSome_map, ← occursIn, ih]
          simp [elsewhere]

/-- There is one position in the text at which the pattern stands. -/
def OccursOnce (pattern text : List Char) : Prop :=
  ∃! before, before ++ pattern <+: text

section

variable {head : Char} {tail text before after left right : List Char}

/-- A copy of the pattern is the one at which the text is cut, or it stands behind the cut. -/
theorem eq_or_exists_of_cut? (once : head ∉ tail)
    (cut : cut? (head :: tail) (left ++ head :: tail ++ right) = some (before, after)) :
    (left = before ∧ right = after) ∨
      ∃ between, left = before ++ head :: tail ++ between ∧
        after = between ++ head :: tail ++ right := by
  by_cases earlier : head :: tail <:+: left
  · right
    obtain ⟨⟨first, between⟩, found⟩ := Option.isSome_iff_exists.mp (occursIn_iff.mpr earlier)
    obtain ⟨split, none⟩ := (cut?_eq_some_iff once).mp found
    have whole : left ++ head :: tail ++ right =
        first ++ head :: tail ++ (between ++ head :: tail ++ right) := by
      rw [split]
      simp only [List.append_assoc]
    rw [whole, (cut?_eq_some_iff once).mpr ⟨rfl, none⟩] at cut
    cases cut
    exact ⟨between, split, rfl⟩
  · left
    rw [(cut?_eq_some_iff once).mpr ⟨rfl, earlier⟩] at cut
    cases cut
    exact ⟨rfl, rfl⟩

/-- The pattern occurs once exactly if there is no copy behind the cut. -/
theorem occursOnce_iff (once : head ∉ tail)
    (cut : cut? (head :: tail) text = some (before, after)) :
    OccursOnce (head :: tail) text ↔ ¬ head :: tail <:+: after := by
  have split := cut?_eq_some cut
  constructor
  · rintro ⟨position, _, unique⟩ ⟨left, right, rfl⟩
    have here : before = position := unique before ⟨_, split.symm⟩
    have behind : before ++ (head :: tail ++ left) = position :=
      unique _ ⟨right, by simp [split]⟩
    rw [← here] at behind
    simp at behind
  · intro absent
    refine ⟨before, ⟨after, split.symm⟩, ?_⟩
    rintro left ⟨right, rfl⟩
    rcases eq_or_exists_of_cut? once cut with ⟨here, _⟩ | ⟨between, _, behind⟩
    · exact here
    · exact absurd ⟨between, right, behind.symm⟩ absent

end

end Callsite.Text
