import Callsite.Proofs.Frame.Substitution

/-!
# Objects that are lost

When the paths of a constructor disagree, the register of the object is written with an item
that refers to nothing.  The heap has nothing to forward to then, so the registers that held
the object have to be found and written.  They are looked for by the handle: a register that
holds another handle of the object, joined to it by forwarding, keeps it
(`Frame.aliases_lost_iff`).
-/

namespace Callsite.Frame

variable {frame : Frame} {register : Register} {item : TypedValue} {heap : Heap}
  {number : Nat} {old other : Handle}

/-- The frame with an item in a register and wherever a handle was held. -/
def overwritten (frame : Frame) (number : Nat) (old : Handle) (item : TypedValue) : Frame :=
  (frame.assignAll (frame.holders old) item).assign (.index number) item

/-- Losing an object always succeeds and leaves the heap alone. -/
theorem assignIdentity_of_lost (holds : (frame.peek (.index number)).handle? = some old)
    (lost : item.handle? = none) :
    frame.assignIdentity heap number item =
      .ok (frame.overwritten number old item, heap) := by
  have different : frame.peek (.index number) ≠ item := by
    intro same
    rw [same, lost] at holds
    cases holds
  simp only [assignIdentity, holds, if_neg different, lost]
  rfl

theorem get?_overwritten_of_holds (item : TypedValue)
    (holds : (frame.peek (.index number)).handle? = some old)
    (holder : frame.Holds register old) :
    (frame.overwritten number old item).get? register = some item := by
  rw [overwritten, get?_assign_assignAll_holders holds, if_pos (mem_holders.mpr holder)]

theorem get?_overwritten_of_not_holds (item : TypedValue)
    (holds : (frame.peek (.index number)).handle? = some old)
    (elsewhere : ¬ frame.Holds register old) :
    (frame.overwritten number old item).get? register = frame.get? register := by
  rw [overwritten, get?_assign_assignAll_holders holds, if_neg (mt mem_holders.mp elsewhere)]

theorem Holds.unique {left right : Handle} (holder : frame.Holds register left)
    (again : frame.Holds register right) : left = right :=
  Option.some.inj (holder.2.symm.trans again.2)

/-- When an object is lost, the handles that are still held are those other than the one
that was looked for. -/
theorem holds_overwritten_iff (holds : (frame.peek (.index number)).handle? = some old)
    (lost : item.handle? = none) :
    (frame.overwritten number old item).Holds register other ↔
      frame.Holds register other ∧ other ≠ old := by
  by_cases holder : frame.Holds register old
  · have gone := get?_overwritten_of_holds item holds holder
    constructor
    · rintro ⟨_, refers⟩
      rw [gone, Option.bind_some, lost] at refers
      cases refers
    · rintro ⟨again, different⟩
      exact absurd (again.unique holder) different
  · have kept := get?_overwritten_of_not_holds item holds holder
    rw [Holds, kept]
    constructor
    · intro again
      refine ⟨again, ?_⟩
      rintro rfl
      exact holder again
    · exact And.left

/-- A register that holds an object can always be written with an item that refers to nothing.
All registers that hold its handle, the return slot apart, are written too, and registers that
refer to other objects are not.  But no numbered register and no result slot is left with a
reference to the object exactly if all those that had one held the very same handle. -/
theorem aliases_lost_iff (resolves : heap.Resolves old)
    (holds : (frame.peek (.index number)).handle? = some old) (lost : item.handle? = none) :
    ∃ after, frame.assignIdentity heap number item = .ok (after, heap) ∧
      (∀ register, frame.Holds register old → after.get? register = some item) ∧
      (∀ register, ¬ frame.Holds register old →
        after.get? register = frame.get? register) ∧
      (∀ register other, (frame.get? register).bind TypedValue.handle? = some other →
        heap.sameIdentity other old = false →
          after.get? register = frame.get? register) ∧
      ((∀ register other, after.Holds register other →
          heap.sameIdentity other old = false) ↔
        ∀ register other, frame.Holds register other →
          heap.sameIdentity other old = true → other = old) := by
  refine ⟨_, assignIdentity_of_lost holds lost,
    fun register holder => get?_overwritten_of_holds item holds holder,
    fun register elsewhere => get?_overwritten_of_not_holds item holds elsewhere, ?_, ?_⟩
  · intro register other refers apart
    apply get?_overwritten_of_not_holds item holds
    rintro ⟨_, refersOld⟩
    rw [refers] at refersOld
    cases refersOld
    rw [Heap.sameIdentity_self resolves] at apart
    cases apart
  · simp only [holds_overwritten_iff holds lost]
    constructor
    · intro forgotten register other holder same
      by_cases sameHandle : other = old
      · exact sameHandle
      · rw [forgotten register other ⟨holder, sameHandle⟩] at same
        cases same
    · rintro covered register other ⟨holder, different⟩
      rw [Bool.eq_false_iff]
      intro same
      exact different (covered register other holder same)

/-- A heap whose first object has been replaced by its second. -/
def joinedHeap : Heap where
  slots := #[.forwarded 1, .object "Lapp/Box;"]
  capacity := 2

/-- A frame that refers to the object by both its handles. -/
def joinedFrame : Frame :=
  ((blank 2 0).poke (.index 0) (TypedValue.reference 0 "Lapp/Box;")).poke
    (.index 1) (TypedValue.reference 1 "Lapp/Box;")

theorem resolves_joinedHeap : joinedHeap.Resolves 0 := ⟨1, rfl⟩

theorem aliases_lost_iff_joined :
    let item := TypedValue.unknown "Lapp/Box;"
    (joinedHeap.Resolves 0 ∧ (joinedFrame.peek (.index 0)).handle? = some 0 ∧
      item.handle? = none) ∧
    ∃ after, joinedFrame.assignIdentity joinedHeap 0 item = .ok (after, joinedHeap) ∧
      (∀ register, joinedFrame.Holds register 0 → after.get? register = some item) ∧
      (∀ register, ¬ joinedFrame.Holds register 0 →
        after.get? register = joinedFrame.get? register) ∧
      (∀ register other, (joinedFrame.get? register).bind TypedValue.handle? = some other →
        joinedHeap.sameIdentity other 0 = false →
          after.get? register = joinedFrame.get? register) ∧
      ((∀ register other, after.Holds register other →
          joinedHeap.sameIdentity other 0 = false) ↔
        ∀ register other, joinedFrame.Holds register other →
          joinedHeap.sameIdentity other 0 = true → other = 0) := by
  intro item
  have holds : (joinedFrame.peek (.index 0)).handle? = some 0 := by decide
  have lost : item.handle? = none := rfl
  exact ⟨⟨resolves_joinedHeap, holds, lost⟩, aliases_lost_iff resolves_joinedHeap holds lost⟩

/-- Losing an object does not reach the registers that hold another handle of it. -/
theorem alias_survives_joined :
    ¬ ∀ (frame after : Frame) (heap merged : Heap) (number : Nat) (item : TypedValue)
        (old : Handle),
      heap.Resolves old → (frame.peek (.index number)).handle? = some old →
      item.handle? = none → frame.assignIdentity heap number item = .ok (after, merged) →
      ∀ register other, after.Holds register other →
        merged.sameIdentity other old = false := by
  intro forgets
  have holds : (joinedFrame.peek (.index 0)).handle? = some 0 := by decide
  have lost : (TypedValue.unknown "Lapp/Box;").handle? = none := rfl
  have holder : joinedFrame.Holds (.index 1) 1 := ⟨by decide, by decide⟩
  have left := (holds_overwritten_iff holds lost).mpr ⟨holder, by decide⟩
  have forgotten := forgets joinedFrame _ joinedHeap _ 0 _ 0 resolves_joinedHeap holds lost
    (assignIdentity_of_lost holds lost) (.index 1) 1 left
  have same : joinedHeap.sameIdentity 1 0 = true := by decide
  rw [same] at forgotten
  cases forgotten

end Callsite.Frame
