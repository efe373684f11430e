import Callsite.Invoke.Arguments
import Callsite.Proofs.Frame.Identity
import Callsite.Proofs.Heap.Edit

/-!
# Frames without dangling references

A frame is closed in a heap if every reference that one of its registers or slots
holds denotes an object of the heap.  Edits of the heap keep frames closed, and so
does writing an item that is closed itself; passing arguments and replacing an
object in all registers that hold it are built from such writes.  In a closed
frame an object can always be replaced: `exists_assignIdentity`.
-/

namespace Callsite

/-- The item is no reference, or denotes an object of the heap. -/
def TypedValue.ClosedIn (item : TypedValue) (heap : Heap) : Prop :=
  ∀ handle, item.handle? = some handle → heap.Resolves handle

/-- All references in the frame denote objects of the heap. -/
def Frame.ClosedIn (frame : Frame) (heap : Heap) : Prop :=
  ∀ register item, frame.get? register = some item → item.ClosedIn heap

variable {heap after : Heap} {frame : Frame} {item : TypedValue}

namespace TypedValue

theorem closedIn_unknown (type : TypeName) (heap : Heap) :
    (unknown type).ClosedIn heap := by
  intro handle refers
  cases refers

theorem closedIn_reference {handle : Handle} {type : TypeName} :
    (reference handle type).ClosedIn heap ↔ heap.Resolves handle := by
  constructor
  · intro closed
    exact closed handle rfl
  · intro resolves other refers
    cases refers
    exact resolves

theorem ClosedIn.edits (closed : item.ClosedIn heap) (edits : heap.Edits after) :
    item.ClosedIn after := by
  intro handle refers
  exact edits.resolves (closed handle refers)

/-- A cast leaves references as they are and makes none. -/
theorem handle?_cast (value : Value) (type : TypeName) :
    (value.cast type).handle? = value.handle? := by
  cases held : value.real? with
  | none => rw [Value.cast_of_real?_eq_none held]
  | some datum =>
      have noHandle : value.handle? = none := by
        cases value
        case reference => cases held
        all_goals rfl
      rw [noHandle]
      unfold Value.cast
      split
      · next integral _ =>
          cases value.castNumber? with
          | none => exact noHandle
          | some number => cases integral <;> rfl
      · split
        · cases value.singleWord? with
          | none => exact noHandle
          | some word => rfl
        · cases value.doubleWord? with
          | none => exact noHandle
          | some word => rfl
        · exact noHandle

/-- Passing an argument keeps the object that it refers to. -/
@[simp] theorem handle?_marshal (item : TypedValue) (type : TypeName) :
    (item.marshal type).handle? = item.handle? := by
  rw [marshal]
  split
  · split
    · next zero =>
        have noHandle : item.value.handle? = none := by
          obtain ⟨_, isZero, _⟩ := zero
          revert isZero
          cases item.value <;> simp [Value.handle?, Value.integer?]
        exact noHandle.symm
    · exact handle?_cast item.value type
  · rfl

theorem ClosedIn.marshal (closed : item.ClosedIn heap) (type : TypeName) :
    (item.marshal type).ClosedIn heap := by
  intro handle refers
  rw [handle?_marshal] at refers
  exact closed handle refers

end TypedValue

namespace Frame

theorem closedIn_blank (count parameters : Nat) (heap : Heap) :
    (blank count parameters).ClosedIn heap := by
  intro register item held
  rw [get?_blank] at held
  cases held

namespace ClosedIn

variable (closed : frame.ClosedIn heap)
include closed

theorem edits (edits : heap.Edits after) : frame.ClosedIn after := by
  intro register item held
  exact (closed register item held).edits edits

/-- What is read from a closed frame is closed, also if it was never written. -/
theorem peek (register : Register) : (frame.peek register).ClosedIn heap := by
  intro handle refers
  obtain ⟨item, held, itemRefers⟩ :=
    Option.bind_eq_some_iff.mp (handle?_peek_eq_some.mp refers)
  exact closed register item held handle itemRefers

theorem peekParameter (offset : Nat) :
    (frame.peekParameter offset).ClosedIn heap :=
  closed.peek _

theorem poke (register : Register) (itemClosed : item.ClosedIn heap) :
    (frame.poke register item).ClosedIn heap := by
  intro other otherItem held
  rw [get?_poke] at held
  split at held
  · cases held
    exact itemClosed
  · exact closed other otherItem held

theorem assign (register : Register) (itemClosed : item.ClosedIn heap) :
    (frame.assign register item).ClosedIn heap := by
  intro other otherItem held
  rw [get?_assign] at held
  split at held
  · cases held
    exact itemClosed
  · exact closed other otherItem held

theorem assignAll (registers : List Register) (itemClosed : item.ClosedIn heap) :
    (frame.assignAll registers item).ClosedIn heap := by
  intro other otherItem held
  rw [get?_assignAll] at held
  split at held
  · cases held
    exact itemClosed
  · exact closed other otherItem held

theorem recordRead (register : Register) :
    (frame.recordRead register).ClosedIn heap := by
  intro other otherItem held
  rw [get?_recordRead] at held
  exact closed other otherItem held

/-- Passing arguments from a closed frame to a closed frame. -/
theorem pass {callee : Frame} (calleeClosed : callee.ClosedIn heap)
    (registers : List Nat) (types : List TypeName) :
    (Arguments.pass frame registers types callee).ClosedIn heap := by
  rw [Arguments.pass]
  generalize registers.zip (Method.place 0 types) = passed
  induction passed generalizing callee with
  | nil => exact calleeClosed
  | cons argument rest ih =>
      obtain ⟨number, offset, type⟩ := argument
      exact ih (calleeClosed.assign _ ((closed.peek (.index number)).marshal type))

/-- Replacing an object by one of the same heap is an edit of the heap. -/
theorem assignIdentity {number : Nat} {written : Frame} {merged : Heap}
    (itemClosed : item.ClosedIn heap)
    (done : frame.assignIdentity heap number item = .ok (written, merged)) :
    heap.Edits merged ∧ written.ClosedIn merged := by
  have edits : heap.Edits merged := by
    rcases assignIdentity_cases done with ⟨_, _, rfl⟩ | ⟨old, _, _, _, heaps⟩
    · exact .refl
    · rcases heaps with ⟨_, rfl⟩ | ⟨new, _, _, forwarded⟩
      · exact .refl
      · exact .single (.forward forwarded)
  refine ⟨edits, ?_⟩
  have stillClosed := closed.edits edits
  have itemStillClosed := itemClosed.edits edits
  rcases assignIdentity_cases done with ⟨_, rfl, _⟩ | ⟨old, _, _, rfl, _⟩
  · exact stillClosed.assign _ itemStillClosed
  · exact (stillClosed.assignAll _ itemStillClosed).assign _ itemStillClosed

/-- In a closed frame every object can be replaced by a closed item. -/
theorem exists_assignIdentity (number : Nat) (itemClosed : item.ClosedIn heap) :
    ∃ written merged,
      frame.assignIdentity heap number item = .ok (written, merged) := by
  cases holds : (frame.peek (.index number)).handle? with
  | none =>
      exact ⟨frame.assign (.index number) item, heap, by
        simp only [Frame.assignIdentity, holds]⟩
  | some old =>
      by_cases same : frame.peek (.index number) = item
      · exact ⟨frame.assign (.index number) item, heap, by
          simp only [Frame.assignIdentity, holds, if_pos same]⟩
      · have oldResolves := closed.peek (.index number) old holds
        cases refers : item.handle? with
        | none =>
            exact ⟨_, heap, by
              simp only [Frame.assignIdentity, holds, if_neg same, refers]
              rfl⟩
        | some new =>
            by_cases sameHandle : new = old
            · exact ⟨_, heap, by
                simp only [Frame.assignIdentity, holds, if_neg same, refers,
                  if_pos sameHandle]
                rfl⟩
            · obtain ⟨merged, forwarded⟩ :=
                Heap.exists_forward oldResolves (itemClosed new refers)
              exact ⟨_, merged, by
                simp only [Frame.assignIdentity, holds, if_neg same, refers,
                  if_neg sameHandle, forwarded]
                rfl⟩

end ClosedIn

end Frame

end Callsite
