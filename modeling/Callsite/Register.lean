import Callsite.Text.Decimal

/-!
# Registers

Besides its numbered registers a frame has a slot for the result of the last
call and one for the value that the method returns.  A set of registers is kept
in the order in which it is listed: by number, then the two slots.
-/

namespace Callsite

/-- A register of a frame. -/
inductive Register where
  | index (number : Nat)
  /-- The result of the last call. -/
  | result
  /-- The value that the method returns. -/
  | returned
  deriving DecidableEq, Repr

namespace Register

/-- The name of a register. -/
def text : Register → String
  | .index number => "r" ++ Decimal.ofNat number
  | .result => "result"
  | .returned => "return"

/-- Whether a register is listed before another. -/
def isBefore : Register → Register → Bool
  | .index left, .index right => decide (left < right)
  | .index _, _ => true
  | .result, .returned => true
  | _, _ => false

end Register

/-- A set of registers, listed in order. -/
structure RegisterSet where
  toList : List Register := []
  deriving DecidableEq, Repr

namespace RegisterSet

instance : EmptyCollection RegisterSet := ⟨{}⟩

instance : Membership Register RegisterSet := ⟨fun set register => register ∈ set.toList⟩

/-- Insert a register at its place in an ordered list. -/
def insertInto (register : Register) : List Register → List Register
  | [] => [register]
  | head :: rest =>
      if register = head then head :: rest
      else if register.isBefore head then register :: head :: rest
      else head :: insertInto register rest

/-- Add a register. -/
def insert (set : RegisterSet) (register : Register) : RegisterSet :=
  ⟨insertInto register set.toList⟩

theorem mem_insertInto {register other : Register} {list : List Register} :
    other ∈ insertInto register list ↔ other = register ∨ other ∈ list := by
  induction list with
  | nil => simp [insertInto]
  | cons head rest ih =>
      rw [insertInto]
      split
      · next same => subst same; simp
      · split
        · simp
        · simp only [List.mem_cons, ih]
          grind

@[simp] theorem mem_insert {set : RegisterSet} {register other : Register} :
    other ∈ set.insert register ↔ other = register ∨ other ∈ set :=
  mem_insertInto

@[simp] theorem not_mem_empty (register : Register) :
    ¬ register ∈ (∅ : RegisterSet) :=
  List.not_mem_nil

end RegisterSet

end Callsite
