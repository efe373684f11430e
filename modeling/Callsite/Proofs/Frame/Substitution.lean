import Callsite.Proofs.Frame.Identity
import Callsite.Proofs.Heap.Denotation

/-!
# Objects that take the place of others

Writing a register that held an object substitutes another object for it, in two ways at
once: the frame's registers that hold the old handle are rewritten, and the heap forwards
the old object to the new one for all handles that are held elsewhere.  Either way nothing
denotes the old object any more, and what denoted another object still denotes it.
-/

namespace Callsite.Frame

variable {frame after : Frame} {register : Register} {item : TypedValue}
  {heap merged : Heap} {number : Nat} {old new : Handle}

/-- A numbered register or the result slot holds a handle. -/
def Holds (frame : Frame) (register : Register) (handle : Handle) : Prop :=
  register ≠ .returned ∧ (frame.get? register).bind TypedValue.handle? = some handle

/-- An item that refers to `new` was substituted for the object that a register referred to
by `old`. -/
structure Substituted (frame after : Frame) (heap merged : Heap) (number : Nat)
    (item : TypedValue) (old new : Handle) : Prop where
  written : after.get? (.index number) = some item
  /-- A register that holds the item already is written alone. -/
  aliases : frame.peek (.index number) ≠ item →
    ∀ register, frame.Holds register old → after.get? register = some item
  kept : ∀ register, ¬ frame.Holds register old ∨ frame.peek (.index number) = item →
    after.get? register = frame.get? register
  merge : heap.Merge merged old new

/-- A register that holds the item keeps it when it is written. -/
theorem get?_assign_of_peek (holds : (frame.peek (.index number)).handle? = some old)
    (same : frame.peek (.index number) = item) (register : Register) :
    (frame.assign (.index number) item).get? register = frame.get? register := by
  obtain ⟨held, found, _⟩ := Option.bind_eq_some_iff.mp (handle?_peek_eq_some.mp holds)
  rw [peek_of_get? found] at same
  rw [get?_assign]
  split
  · next written =>
      rw [← written.1, found, same]
  · rfl

/-- Whenever `assignIdentity` succeeds, it substitutes the item for the object that the
register held. -/
theorem substituted_assignIdentity (holds : (frame.peek (.index number)).handle? = some old)
    (refers : item.handle? = some new)
    (done : frame.assignIdentity heap number item = .ok (after, merged)) :
    frame.Substituted after heap merged number item old new := by
  have held : frame.Holds (.index number) old := ⟨nofun, handle?_peek_eq_some.mp holds⟩
  rcases assignIdentity_cases done with
    ⟨noReference | same, rfl, rfl⟩ | ⟨other, otherHolds, different, rfl, outcome⟩
  · rw [holds] at noReference
    cases noReference
  · have sameHandle : old = new := by
      rw [same, refers] at holds
      exact (Option.some.inj holds).symm
    constructor
    case written =>
      rw [get?_assign, if_pos ⟨rfl, has_of_handle? holds⟩]
    case aliases =>
      intro different
      exact absurd same different
    case kept =>
      intro register _
      exact get?_assign_of_peek holds same register
    case merge =>
      apply Heap.Merge.of_resolve_eq
      rw [sameHandle]
  · rw [holds] at otherHolds
    cases otherHolds
    have rewritten (register : Register) :
        ((frame.assignAll (frame.holders old) item).assign (.index number) item).get?
            register =
          if register ∈ frame.holders old then some item else frame.get? register :=
      get?_assign_assignAll_holders holds
    constructor
    case written =>
      rw [rewritten, if_pos (mem_holders.mpr held)]
    case aliases =>
      intro _ register holder
      rw [rewritten, if_pos (mem_holders.mpr holder)]
    case kept =>
      rintro register (elsewhere | same)
      · rw [rewritten, if_neg (mt mem_holders.mp elsewhere)]
      · exact absurd same different
    case merge =>
      rcases outcome with ⟨noReference | sameHandle, rfl⟩ | ⟨target, reached, _, forwarded⟩
      · rw [refers] at noReference
        cases noReference
      · rw [refers] at sameHandle
        cases sameHandle
        exact .of_resolve_eq rfl
      · rw [refers] at reached
        cases reached
        exact Heap.merge_of_forward forwarded

/-- `assignIdentity` fails exactly if there is something to forward and forwarding it
fails. -/
theorem assignIdentity_eq_error_iff {cause : Error}
    (holds : (frame.peek (.index number)).handle? = some old)
    (refers : item.handle? = some new) :
    frame.assignIdentity heap number item = .error cause ↔
      frame.peek (.index number) ≠ item ∧ new ≠ old ∧
        heap.forward old new = .error cause := by
  simp only [assignIdentity, holds, refers]
  by_cases same : frame.peek (.index number) = item
  · simp [same]
  · by_cases sameHandle : new = old
    · simp [same, sameHandle]
    · cases heap.forward old new with
      | error found => simp [same, sameHandle]
      | ok grown => simp [same, sameHandle]

/-- One object can be substituted for another if both are there. -/
theorem exists_substitution (holds : (frame.peek (.index number)).handle? = some old)
    (refers : item.handle? = some new) (different : new ≠ old)
    (oldResolves : heap.Resolves old) (newResolves : heap.Resolves new) :
    ∃ after merged, frame.assignIdentity heap number item = .ok (after, merged) ∧
      heap.forward old new = .ok merged := by
  obtain ⟨merged, forwarded⟩ := Heap.exists_forward oldResolves newResolves
  have replaced : frame.peek (.index number) ≠ item := by
    intro same
    rw [same, refers] at holds
    cases holds
    exact different rfl
  simp only [assignIdentity, holds, refers, if_neg replaced, if_neg different, forwarded]
  exact ⟨_, merged, rfl, rfl⟩

end Callsite.Frame
