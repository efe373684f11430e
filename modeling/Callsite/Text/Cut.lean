/-!
# Cutting text at a separator

`cut?` splits text at the first occurrence of a separator.  What it returns is
pinned down by `cut?_eq_some`: the two parts around one copy of the separator
are the whole text.
-/

namespace Callsite.Text

/-- The text before and after the first occurrence of `separator`, or `none` if
there is no occurrence. -/
def cut? (separator : List Char) : List Char → Option (List Char × List Char)
  | [] => if separator = [] then some ([], []) else none
  | head :: rest =>
      if separator.isPrefixOf (head :: rest) then
        some ([], (head :: rest).drop separator.length)
      else
        (cut? separator rest).map fun parts => (head :: parts.1, parts.2)

/-- The two parts around one copy of the separator are the whole text. -/
theorem cut?_eq_some {separator text before after : List Char}
    (found : cut? separator text = some (before, after)) :
    text = before ++ separator ++ after := by
  induction text generalizing before with
  | nil =>
      simp only [cut?] at found
      split at found
      · next empty =>
          cases found
          simp [empty]
      · cases found
  | cons head rest ih =>
      simp only [cut?] at found
      split at found
      · next here =>
          cases found
          obtain ⟨tail, whole⟩ := List.isPrefixOf_iff_prefix.mp here
          simp [← whole]
      · cases later : cut? separator rest with
        | none => simp [later] at found
        | some parts =>
            simp only [later, Option.map_some, Option.some.injEq,
              Prod.mk.injEq] at found
            obtain ⟨rfl, rfl⟩ := found
            have split := ih later
            simp only [List.cons_append]
            rw [← split]

/-- A separator whose first character occurs in it only once does not overlap with itself: in
front of text that ends in it, it stands only within what comes before the end. -/
theorem infix_of_prefix_append {head : Char} {tail before after : List Char}
    (once : head ∉ tail) (nonempty : before ≠ [])
    (here : head :: tail <+: before ++ head :: tail ++ after) :
    head :: tail <:+: before := by
  have front : before <+: before ++ head :: tail ++ after := by
    rw [List.append_assoc]
    exact List.prefix_append _ _
  rcases List.prefix_or_prefix_of_prefix here front with inside | ⟨others, split⟩
  · exact inside.isInfix
  · obtain ⟨remaining, whole⟩ := here
    rw [← split, List.append_assoc, List.append_assoc, List.append_cancel_left_eq] at whole
    cases others with
    | nil =>
        rw [List.append_nil] at split
        subst split
        exact List.infix_refl _
    | cons next others =>
        cases before with
        | nil => exact absurd rfl nonempty
        | cons first between =>
            rw [List.cons_append, List.cons.injEq] at split
            obtain ⟨rfl, rfl⟩ := split
            simp only [List.cons_append, List.cons.injEq] at whole
            refine absurd ?_ once
            rw [← whole.1]
            simp

/-- Text is cut around the copy of a separator in front of which there is none, provided that
the first character of the separator occurs in it only once. -/
theorem cut?_eq_some_iff {head : Char} {tail text before after : List Char}
    (once : head ∉ tail) :
    cut? (head :: tail) text = some (before, after) ↔
      text = before ++ head :: tail ++ after ∧ ¬ head :: tail <:+: before := by
  induction text generalizing before with
  | nil => simp [cut?]
  | cons first rest ih =>
      rw [cut?]
      split
      · next here =>
          have here := List.isPrefixOf_iff_prefix.mp here
          constructor
          · intro same
            cases same
            exact ⟨(List.prefix_iff_eq_append.mp here).symm, by simp⟩
          · intro ⟨same, absent⟩
            cases before with
            | nil => rw [same, List.nil_append, List.drop_left]
            | cons other between =>
                rw [same] at here
                exact absurd (infix_of_prefix_append once (by simp) here) absent
      · next elsewhere =>
          rw [List.isPrefixOf_iff_prefix] at elsewhere
          rw [Option.map_eq_some_iff]
          constructor
          · rintro ⟨⟨between, others⟩, later, same⟩
            cases same
            obtain ⟨split, absent⟩ := ih.mp later
            rw [split, List.infix_cons_iff, not_or]
            refine ⟨by simp, ?_, absent⟩
            intro here
            exact elsewhere (here.trans (by simp [split]))
          · intro ⟨same, absent⟩
            cases before with
            | nil => exact absurd ⟨after, same.symm⟩ elsewhere
            | cons other between =>
                rw [List.cons_append, List.cons_append, List.cons.injEq] at same
                rw [List.infix_cons_iff, not_or] at absent
                exact ⟨(between, after), ih.mpr ⟨same.2, absent.2⟩, by rw [same.1]⟩

/-- Whether `pattern` occurs in `text`. -/
def occursIn (pattern text : List Char) : Bool :=
  (cut? pattern text).isSome

end Callsite.Text
