/-!
# Side effects

How much a call may have changed outside its own registers.  The levels are
ordered, and what several calls do together is as much as the strongest does:
`strongest_le_iff` says that this is the least level that covers them all.
-/

namespace Callsite

/-- The level of a side effect. -/
inductive SideEffect where
  /-- Nothing that can be observed. -/
  | nothing
  /-- Changes to the objects passed in, at most. -/
  | weak
  /-- Anything. -/
  | strong
  deriving DecidableEq, Inhabited, Repr

namespace SideEffect

/-- The place of a level in the order. -/
def rank : SideEffect → Nat
  | .nothing => 0
  | .weak => 1
  | .strong => 2

instance : LE SideEffect := ⟨fun left right => left.rank ≤ right.rank⟩

instance : LT SideEffect := ⟨fun left right => left.rank < right.rank⟩

instance (left right : SideEffect) : Decidable (left ≤ right) :=
  inferInstanceAs (Decidable (left.rank ≤ right.rank))

instance (left right : SideEffect) : Decidable (left < right) :=
  inferInstanceAs (Decidable (left.rank < right.rank))

/-- The stronger of two levels. -/
def join (left right : SideEffect) : SideEffect :=
  if left < right then right else left

/-- The strongest of several levels. -/
def strongest (levels : List SideEffect) : SideEffect :=
  levels.foldl join .nothing

/-- The word for a level. -/
def text : SideEffect → String
  | .nothing => "none"
  | .weak => "weak"
  | .strong => "strong"

/-- The level that a word names. -/
def ofText? (word : String) : Option SideEffect :=
  [nothing, weak, strong].find? fun level => level.text == word

@[simp] theorem ofText?_text (level : SideEffect) : ofText? level.text = some level := by
  cases level <;> decide

theorem le_join_left (left right : SideEffect) : left ≤ left.join right := by
  cases left <;> cases right <;> decide

theorem le_join_right (left right : SideEffect) : right ≤ left.join right := by
  cases left <;> cases right <;> decide

theorem join_le {left right bound : SideEffect} (leftLe : left ≤ bound)
    (rightLe : right ≤ bound) : left.join right ≤ bound := by
  cases left <;> cases right <;> assumption

/-- There is no level above the strongest one. -/
theorem eq_strong_of_le {level : SideEffect} (above : strong ≤ level) : level = .strong := by
  cases level with
  | nothing => exact absurd above (by decide)
  | weak => exact absurd above (by decide)
  | strong => rfl

theorem join_eq_or (left right : SideEffect) :
    left.join right = left ∨ left.join right = right := by
  rw [join]
  split
  · exact .inr rfl
  · exact .inl rfl

theorem foldl_join_le_iff (levels : List SideEffect) (start bound : SideEffect) :
    levels.foldl join start ≤ bound ↔ start ≤ bound ∧ ∀ level ∈ levels, level ≤ bound := by
  induction levels generalizing start with
  | nil => simp
  | cons level rest ih =>
      simp only [List.foldl_cons, ih, List.forall_mem_cons]
      constructor
      · intro ⟨joined, others⟩
        exact ⟨Nat.le_trans (le_join_left start level) joined,
          Nat.le_trans (le_join_right start level) joined, others⟩
      · intro ⟨startLe, levelLe, others⟩
        exact ⟨join_le startLe levelLe, others⟩

/-- The strongest of several levels is their least upper bound. -/
theorem strongest_le_iff {levels : List SideEffect} {bound : SideEffect} :
    strongest levels ≤ bound ↔ ∀ level ∈ levels, level ≤ bound := by
  have nothingLe : nothing ≤ bound := Nat.zero_le _
  simp [strongest, foldl_join_le_iff, nothingLe]

theorem foldl_join_eq_or_mem (levels : List SideEffect) (start : SideEffect) :
    levels.foldl join start = start ∨ levels.foldl join start ∈ levels := by
  induction levels generalizing start with
  | nil => exact .inl rfl
  | cons level rest ih =>
      rw [List.foldl_cons, List.mem_cons]
      rcases ih (start.join level) with same | member
      · rw [same]
        rcases join_eq_or start level with old | new
        · exact .inl old
        · exact .inr (.inl new)
      · exact .inr (.inr member)

/-- A level above the least one is only the strongest of several if it is one of them. -/
theorem strongest_mem {levels : List SideEffect} (above : strongest levels ≠ .nothing) :
    strongest levels ∈ levels :=
  (foldl_join_eq_or_mem levels .nothing).resolve_left above

end SideEffect

end Callsite
