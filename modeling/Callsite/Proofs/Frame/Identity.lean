import Callsite.Frame

/-!
# Registers that hold one object

What `assignIdentity` does to a frame: either it writes one register, or it
writes all registers that hold the old handle, the return slot apart.  The heap
changes in the second case only, and only if the new item refers to an object of
its own.
-/

namespace Callsite.Frame

variable {frame after : Frame} {register : Register} {item : TypedValue}
  {heap merged : Heap} {number : Nat} {handle old : Handle}

theorem has_of_get? (held : frame.get? register = some item) :
    frame.has register = true := by
  cases register with
  | index number =>
      simp only [get?, Option.join_eq_some_iff] at held
      exact decide_eq_true (Array.getElem?_eq_some_iff.mp held).1
  | result => rfl
  | returned => rfl

/-- A register that the frame does not have holds nothing. -/
theorem get?_of_not_has (absent : frame.has register = false) :
    frame.get? register = none := by
  cases held : frame.get? register with
  | none => rfl
  | some item =>
      rw [has_of_get? held] at absent
      cases absent

/-- A register that reads as a reference was written. -/
theorem handle?_peek_eq_some :
    (frame.peek register).handle? = some handle ↔
      (frame.get? register).bind TypedValue.handle? = some handle := by
  rw [peek]
  cases frame.get? register with
  | none => simp
  | some item => simp

/-- Only a register that the frame has reads as a reference. -/
theorem has_of_handle? (refers : (frame.peek register).handle? = some handle) :
    frame.has register = true := by
  obtain ⟨held, found, _⟩ := Option.bind_eq_some_iff.mp (handle?_peek_eq_some.mp refers)
  exact has_of_get? found

theorem peek_of_get? (held : frame.get? register = some item) :
    frame.peek register = item := by
  simp [peek, held]

/-- A register that the frame has reads as what it was assigned. -/
theorem peek_assign_self (present : frame.has register = true) :
    (frame.assign register item).peek register = item := by
  apply peek_of_get?
  rw [get?_assign, if_pos ⟨rfl, present⟩]

@[simp] theorem has_assignAll (registers : List Register) (item : TypedValue)
    (register : Register) :
    (frame.assignAll registers item).has register = frame.has register := by
  induction registers generalizing frame with
  | nil => rfl
  | cons head rest ih =>
      exact (@ih (frame.assign head item)).trans
        (frame.has_assign head register item)

theorem get?_assignAll (registers : List Register) (item : TypedValue)
    (register : Register) :
    (frame.assignAll registers item).get? register =
      if register ∈ registers ∧ frame.has register = true then some item
      else frame.get? register := by
  induction registers generalizing frame with
  | nil => simp [assignAll]
  | cons head rest ih =>
      have later := @ih (frame.assign head item)
      rw [has_assign, get?_assign] at later
      refine later.trans ?_
      by_cases same : head = register
      · subst same
        by_cases present : frame.has head = true
        · simp [present]
        · simp [present]
      · simp [same, Ne.symm same]

/-- The registers that hold a handle are the numbered ones and the result slot
whose item refers to it. -/
theorem mem_holders :
    register ∈ frame.holders handle ↔
      register ≠ .returned ∧
        (frame.get? register).bind TypedValue.handle? = some handle := by
  simp only [holders, List.mem_filter, List.mem_append, List.mem_map, List.mem_range,
    List.mem_singleton, beq_iff_eq]
  constructor
  · rintro ⟨⟨number, _, rfl⟩ | rfl, holds⟩
    · exact ⟨by simp, holds⟩
    · exact ⟨by simp, holds⟩
  · intro ⟨notReturned, holds⟩
    refine ⟨?_, holds⟩
    cases register with
    | index number =>
        obtain ⟨item, held, _⟩ := Option.bind_eq_some_iff.mp holds
        have inside : number < frame.registerCount := by
          simpa [has] using has_of_get? held
        exact .inl ⟨number, inside, rfl⟩
    | result => exact .inr rfl
    | returned => exact absurd rfl notReturned

/-- All that `assignIdentity` can do when it succeeds. -/
theorem assignIdentity_cases
    (done : frame.assignIdentity heap number item = .ok (after, merged)) :
    (((frame.peek (.index number)).handle? = none ∨ frame.peek (.index number) = item) ∧
      after = frame.assign (.index number) item ∧ merged = heap) ∨
    ∃ old, (frame.peek (.index number)).handle? = some old ∧
      frame.peek (.index number) ≠ item ∧
      after = (frame.assignAll (frame.holders old) item).assign (.index number) item ∧
      ((item.handle? = none ∨ item.handle? = some old) ∧ merged = heap ∨
        ∃ new, item.handle? = some new ∧ new ≠ old ∧
          heap.forward old new = .ok merged) := by
  simp only [assignIdentity] at done
  split at done
  · next noReference =>
      cases done
      exact .inl ⟨.inl noReference, rfl, rfl⟩
  · next old holds =>
      split at done
      · next same =>
          cases done
          exact .inl ⟨.inr same, rfl, rfl⟩
      · next different =>
          split at done
          · cases done
          · next grown joined =>
              cases done
              refine .inr ⟨old, holds, different, rfl, ?_⟩
              split at joined
              · next new refers =>
                  split at joined
                  · next sameHandle =>
                      cases joined
                      exact .inl ⟨.inr (sameHandle ▸ refers), rfl⟩
                  · next newHandle => exact .inr ⟨new, refers, newHandle, joined⟩
              · next noReference =>
                  cases joined
                  exact .inl ⟨.inl noReference, rfl⟩

/-- A register that holds a reference is among those that `assignIdentity`
writes, so that writing it once more changes nothing. -/
theorem get?_assign_assignAll_holders
    (holds : (frame.peek (.index number)).handle? = some old) :
    ((frame.assignAll (frame.holders old) item).assign (.index number) item).get?
        register =
      if register ∈ frame.holders old then some item else frame.get? register := by
  have member : Register.index number ∈ frame.holders old :=
    mem_holders.mpr ⟨by simp, handle?_peek_eq_some.mp holds⟩
  have present : ∀ register ∈ frame.holders old, frame.has register = true := by
    intro register member
    obtain ⟨item, held, _⟩ := Option.bind_eq_some_iff.mp (mem_holders.mp member).2
    exact has_of_get? held
  rw [get?_assign, has_assignAll, get?_assignAll]
  by_cases same : Register.index number = register
  · subst same
    simp [member, present _ member]
  · by_cases other : register ∈ frame.holders old
    · simp [same, other, present _ other]
    · simp [same, other]

/-- Placing an instance allocates it and has it take the place of the register's object. -/
theorem placeInstance_eq_ok {type : TypeName} {inst : Instance} :
    frame.placeInstance heap number type inst = (.ok after, merged) ↔
      ∃ new grown, heap.alloc inst = .ok (new, grown) ∧
        frame.assignIdentity grown number (TypedValue.reference new type) =
          .ok (after, merged) := by
  rw [placeInstance]
  cases heap.alloc inst with
  | error cause => simp
  | ok allocated =>
      obtain ⟨new, grown⟩ := allocated
      simp only [Except.ok.injEq, Prod.mk.injEq]
      cases placed : frame.assignIdentity grown number (TypedValue.reference new type) with
      | error cause =>
          constructor
          · intro impossible
            cases impossible
          · rintro ⟨_, _, ⟨rfl, rfl⟩, again⟩
            rw [placed] at again
            cases again
      | ok written =>
          constructor
          · intro same
            cases same
            exact ⟨new, grown, ⟨rfl, rfl⟩, placed⟩
          · rintro ⟨_, _, ⟨rfl, rfl⟩, again⟩
            rw [placed] at again
            cases again
            rfl

end Callsite.Frame
