import Callsite.Proofs.Emulation.InPlace
import Callsite.Proofs.Heap.Denotation

/-!
# Where forwarding leads

Whatever the slots of a heap hold, forwarding from a handle does one of three things: it
comes to an object, it leaves the heap, or it runs in a circle.  Which of them it does
tells what `resolve` answers, since a walk that passes more slots than there are has passed
one of them twice.  So the step budget is exact, and overwriting an object in place can be
described for all handles, those that lead nowhere included.
-/

namespace Callsite.Heap

open Relation (ReflTransGen TransGen)

/-! ## Steps of forwarding -/

/-- A slot forwards to another one. -/
def Forwards (slots : Array Instance) (handle next : Handle) : Prop :=
  slots[handle]? = some (.forwarded next)

/-- Forwarding leads from one handle to another, in any number of steps. -/
abbrev Leads (slots : Array Instance) : Handle → Handle → Prop :=
  ReflTransGen (Forwards slots)

variable {slots : Array Instance} {handle next last left right : Handle}
  {passed : List Handle}

theorem rightUnique_forwards (slots : Array Instance) :
    Relator.RightUnique (Forwards slots) := by
  intro handle left right toLeft toRight
  have same := toLeft.symm.trans toRight
  cases same
  rfl

/-- A handle from which no step leads on. -/
def Stuck (slots : Array Instance) (handle : Handle) : Prop :=
  ∀ next, ¬ Forwards slots handle next

theorem stuck_of_isLive {inst : Instance} (found : slots[handle]? = some inst)
    (isLive : inst.isLive = true) : Stuck slots handle := by
  intro next forwards
  rw [Forwards, found] at forwards
  cases forwards
  cases isLive

theorem stuck_of_size_le (outside : slots.size ≤ handle) : Stuck slots handle := by
  intro next forwards
  rw [Forwards, Array.getElem?_eq_none outside] at forwards
  cases forwards

namespace Stuck

theorem eq_of_leads (stuck : Stuck slots handle) (leads : Leads slots handle last) :
    handle = last := by
  rcases leads.cases_head with same | ⟨next, forwards, _⟩
  · exact same
  · exact absurd forwards (stuck next)

/-- Forwarding stops at one place at most. -/
theorem unique (leftStuck : Stuck slots left) (rightStuck : Stuck slots right)
    (toLeft : Leads slots handle left) (toRight : Leads slots handle right) :
    left = right := by
  rcases ReflTransGen.total_of_right_unique (rightUnique_forwards slots) toLeft toRight with
    onward | onward
  · exact leftStuck.eq_of_leads onward
  · exact (rightStuck.eq_of_leads onward).symm

/-- From where forwarding stops it does not come back. -/
theorem not_transGen (stuck : Stuck slots last) (leads : Leads slots handle last) :
    ¬ TransGen (Forwards slots) handle handle := by
  induction leads using ReflTransGen.head_induction_on with
  | refl =>
      intro circle
      obtain ⟨next, forwards, _⟩ := TransGen.head'_iff.mp circle
      exact stuck next forwards
  | head forwards _ ih =>
      intro circle
      obtain ⟨next, step, back⟩ := TransGen.head'_iff.mp circle
      cases rightUnique_forwards slots forwards step
      exact ih (TransGen.tail' back forwards)

end Stuck

/-! ## The slots that are passed -/

/-- The slots that forwarding passes on its way from a handle to another one, the last one
excluded. -/
inductive Passes (slots : Array Instance) : Handle → List Handle → Handle → Prop where
  | here {handle : Handle} : Passes slots handle [] handle
  | onward {handle next last : Handle} {rest : List Handle} :
      Forwards slots handle next → Passes slots next rest last →
      Passes slots handle (handle :: rest) last

namespace Passes

theorem leads_of_mem (passes : Passes slots handle passed last) {between : Handle}
    (member : between ∈ passed) : Leads slots handle between := by
  induction passes with
  | here => cases member
  | onward forwards _ ih =>
      rcases List.mem_cons.mp member with rfl | later
      · exact .refl
      · exact .head forwards (ih later)

theorem lt_size_of_mem (passes : Passes slots handle passed last) {between : Handle}
    (member : between ∈ passed) : between < slots.size := by
  induction passes with
  | here => cases member
  | onward forwards _ ih =>
      rcases List.mem_cons.mp member with rfl | later
      · exact (Array.getElem?_eq_some_iff.mp forwards).1
      · exact ih later

/-- A slot that is passed twice lies on a circle. -/
theorem exists_circle (passes : Passes slots handle passed last) (again : ¬ passed.Nodup) :
    ∃ between, Leads slots handle between ∧ TransGen (Forwards slots) between between := by
  induction passes with
  | here => exact absurd List.nodup_nil again
  | @onward handle _ _ rest forwards passes ih =>
      by_cases twice : handle ∈ rest
      · exact ⟨handle, .refl, TransGen.head' forwards (passes.leads_of_mem twice)⟩
      · obtain ⟨between, leads, circle⟩ :=
          ih fun once => again (List.nodup_cons.mpr ⟨twice, once⟩)
        exact ⟨between, .head forwards leads, circle⟩

/-- More slots than there are cannot be passed without a circle. -/
theorem exists_circle_of_size_lt (passes : Passes slots handle passed last)
    (long : slots.size < passed.length) :
    ∃ between, Leads slots handle between ∧ TransGen (Forwards slots) between between := by
  apply passes.exists_circle
  intro once
  have contained : passed ⊆ List.range slots.size := by
    intro between member
    exact List.mem_range.mpr (passes.lt_size_of_mem member)
  have bounded := (once.subperm contained).length_le
  rw [List.length_range] at bounded
  omega

end Passes

/-! ## What forwarding comes to -/

variable (heap : Heap)

/-- Forwarding from the handle ends at a slot that holds an object. -/
def EndsAt (handle slot : Handle) : Prop :=
  Leads heap.slots handle slot ∧ ∃ inst, heap.slots[slot]? = some inst ∧ inst.isLive = true

/-- Forwarding from the handle comes to a number that is no slot.  All slots passed before
are slots, so it is the first such number. -/
def LeavesAt (handle outside : Handle) : Prop :=
  Leads heap.slots handle outside ∧ heap.size ≤ outside

/-- Forwarding from the handle comes to a slot to which it then comes back. -/
def Circles (handle : Handle) : Prop :=
  ∃ between, Leads heap.slots handle between ∧
    TransGen (Forwards heap.slots) between between

/-- What a walk of a number of steps from a handle comes to, when it blames `start` if it
uses up its steps. -/
inductive WalkCase (start handle : Handle) (steps : Nat) : Except Error Handle → Prop where
  | ends {slot : Handle} : heap.EndsAt handle slot → WalkCase start handle steps (.ok slot)
  | leaves {outside : Handle} : heap.LeavesAt handle outside →
      WalkCase start handle steps (.error (.invalidReference outside))
  | usedUp {passed : List Handle} {last : Handle} :
      Passes heap.slots handle passed last → passed.length = steps →
      WalkCase start handle steps (.error (.invalidReference start))

variable {heap} {slot outside : Handle}

theorem EndsAt.head (forwards : Forwards heap.slots handle next)
    (ends : heap.EndsAt next slot) : heap.EndsAt handle slot :=
  ⟨.head forwards ends.1, ends.2⟩

theorem LeavesAt.head (forwards : Forwards heap.slots handle next)
    (leaves : heap.LeavesAt next outside) : heap.LeavesAt handle outside :=
  ⟨.head forwards leaves.1, leaves.2⟩

/-- One step more, in front of a walk. -/
theorem WalkCase.head {start : Handle} {steps : Nat} {result : Except Error Handle}
    (forwards : Forwards heap.slots handle next)
    (cases : heap.WalkCase start next steps result) :
    heap.WalkCase start handle (steps + 1) result := by
  cases cases with
  | ends ends => exact .ends (ends.head forwards)
  | leaves leaves => exact .leaves (leaves.head forwards)
  | usedUp passes length => exact .usedUp (.onward forwards passes) (by simp [length])

theorem walkCase_walk (heap : Heap) (start handle : Handle) (steps : Nat) :
    heap.WalkCase start handle steps (walk heap.slots start steps handle) := by
  induction steps generalizing handle with
  | zero => exact .usedUp .here rfl
  | succ steps ih =>
      rw [walk]
      split
      · next missing => exact .leaves ⟨.refl, Array.getElem?_eq_none_iff.mp missing⟩
      · next next found => exact (ih next).head found
      · next inst notForwarded found =>
          exact .ends ⟨.refl, inst, found, Instance.isLive_iff.mpr notForwarded⟩

/-! ## The three cases exclude each other -/

theorem EndsAt.stuck (ends : heap.EndsAt handle slot) : Stuck heap.slots slot := by
  obtain ⟨_, inst, found, isLive⟩ := ends
  exact stuck_of_isLive found isLive

theorem LeavesAt.stuck (leaves : heap.LeavesAt handle outside) : Stuck heap.slots outside :=
  stuck_of_size_le leaves.2

theorem EndsAt.unique (ends : heap.EndsAt handle left) (other : heap.EndsAt handle right) :
    left = right :=
  ends.stuck.unique other.stuck ends.1 other.1

theorem LeavesAt.unique (leaves : heap.LeavesAt handle left)
    (other : heap.LeavesAt handle right) : left = right :=
  leaves.stuck.unique other.stuck leaves.1 other.1

theorem EndsAt.not_leavesAt (ends : heap.EndsAt handle slot) :
    ¬ heap.LeavesAt handle outside := by
  intro leaves
  have same := ends.stuck.unique leaves.stuck ends.1 leaves.1
  obtain ⟨_, inst, found, _⟩ := ends
  have inside : slot < heap.slots.size := (Array.getElem?_eq_some_iff.mp found).1
  rw [same] at inside
  exact Nat.not_lt.mpr leaves.2 inside

/-- A circle is never left. -/
theorem Circles.not_leads (circles : heap.Circles handle) (stuck : Stuck heap.slots last) :
    ¬ Leads heap.slots handle last := by
  intro leads
  obtain ⟨between, toBetween, circle⟩ := circles
  rcases ReflTransGen.total_of_right_unique (rightUnique_forwards heap.slots) toBetween leads
    with onward | back
  · exact stuck.not_transGen onward circle
  · rw [← stuck.eq_of_leads back] at circle
    exact stuck.not_transGen .refl circle

theorem Circles.not_endsAt (circles : heap.Circles handle) : ¬ heap.EndsAt handle slot :=
  fun ends => circles.not_leads ends.stuck ends.1

theorem Circles.not_leavesAt (circles : heap.Circles handle) :
    ¬ heap.LeavesAt handle outside :=
  fun leaves => circles.not_leads leaves.stuck leaves.1

theorem Circles.lt_size (circles : heap.Circles handle) : handle < heap.size := by
  by_contra beyond
  exact circles.not_leavesAt ⟨.refl, Nat.le_of_not_lt beyond⟩

/-! ## What a walk with enough steps answers -/

/-- A walk with more steps than there are slots uses them up only in a circle. -/
theorem circles_of_usedUp {steps : Nat} (enough : heap.size < steps)
    (passes : Passes heap.slots handle passed last) (length : passed.length = steps) :
    heap.Circles handle :=
  passes.exists_circle_of_size_lt (length ▸ enough)

namespace WalkCase

variable {start : Handle} {steps : Nat} {result : Except Error Handle}

theorem eq_ok_iff (found : heap.WalkCase start handle steps result)
    (enough : heap.size < steps) : result = .ok slot ↔ heap.EndsAt handle slot := by
  cases found with
  | @ends reached ends =>
      rw [Except.ok.injEq]
      exact ⟨fun same => same ▸ ends, fun other => ends.unique other⟩
  | leaves leaves =>
      simp only [reduceCtorEq, false_iff]
      exact fun ends => ends.not_leavesAt leaves
  | usedUp passes length =>
      simp only [reduceCtorEq, false_iff]
      exact (circles_of_usedUp enough passes length).not_endsAt

theorem eq_error_iff (found : heap.WalkCase start handle steps result)
    (enough : heap.size < steps) {cause : Error} :
    result = .error cause ↔
      (∃ outside, heap.LeavesAt handle outside ∧ cause = .invalidReference outside) ∨
        heap.Circles handle ∧ cause = .invalidReference start := by
  cases found with
  | ends ends =>
      simp only [reduceCtorEq, false_iff, not_or, not_exists, not_and]
      exact ⟨fun outside leaves => absurd leaves ends.not_leavesAt,
        fun circles => absurd ends circles.not_endsAt⟩
  | @leaves reached leaves =>
      rw [Except.error.injEq]
      constructor
      · rintro rfl
        exact .inl ⟨reached, leaves, rfl⟩
      · rintro (⟨outside, other, rfl⟩ | ⟨circles, _⟩)
        · rw [leaves.unique other]
        · exact absurd leaves circles.not_leavesAt
  | usedUp passes length =>
      have circles := circles_of_usedUp enough passes length
      rw [Except.error.injEq]
      constructor
      · rintro rfl
        exact .inr ⟨circles, rfl⟩
      · rintro (⟨outside, leaves, _⟩ | ⟨_, rfl⟩)
        · exact absurd leaves circles.not_leavesAt
        · rfl

end WalkCase

theorem walkCase_resolve (heap : Heap) (handle : Handle) :
    heap.WalkCase handle handle (heap.size + 1) (heap.resolve handle) :=
  walkCase_walk heap handle handle (heap.size + 1)

theorem resolve_eq_ok_iff_endsAt :
    heap.resolve handle = .ok slot ↔ heap.EndsAt handle slot :=
  (walkCase_resolve heap handle).eq_ok_iff (Nat.lt_succ_self _)

theorem resolve_eq_error_iff {cause : Error} :
    heap.resolve handle = .error cause ↔
      (∃ outside, heap.LeavesAt handle outside ∧ cause = .invalidReference outside) ∨
        heap.Circles handle ∧ cause = .invalidReference handle :=
  (walkCase_resolve heap handle).eq_error_iff (Nat.lt_succ_self _)

/-- More steps than `resolve` takes do not change the answer. -/
theorem walk_eq_resolve (handle : Handle) {steps : Nat} (enough : heap.size < steps) :
    walk heap.slots handle steps handle = heap.resolve handle := by
  have found := walkCase_walk heap handle handle steps
  cases resolved : heap.resolve handle with
  | ok slot => exact (found.eq_ok_iff enough).mpr (resolve_eq_ok_iff_endsAt.mp resolved)
  | error cause => exact (found.eq_error_iff enough).mpr (resolve_eq_error_iff.mp resolved)

/-- A number that is no slot is blamed if forwarding comes to it. -/
theorem leavesAt_iff :
    heap.LeavesAt handle outside ↔
      heap.resolve handle = .error (.invalidReference outside) ∧ heap.size ≤ outside := by
  rw [resolve_eq_error_iff]
  constructor
  · intro leaves
    exact ⟨.inl ⟨outside, leaves, rfl⟩, leaves.2⟩
  · rintro ⟨⟨other, leaves, same⟩ | ⟨circles, same⟩, beyond⟩
    · cases same
      exact leaves
    · cases same
      exact absurd circles.lt_size (Nat.not_lt.mpr beyond)

/-- A slot is blamed for its own handle if forwarding from it runs in a circle. -/
theorem circles_iff :
    heap.Circles handle ↔
      heap.resolve handle = .error (.invalidReference handle) ∧ handle < heap.size := by
  rw [resolve_eq_error_iff]
  constructor
  · intro circles
    exact ⟨.inr ⟨circles, rfl⟩, circles.lt_size⟩
  · rintro ⟨⟨other, leaves, same⟩ | ⟨circles, _⟩, inside⟩
    · cases same
      exact absurd inside (Nat.not_lt.mpr leaves.2)
    · exact circles

theorem exists_case (heap : Heap) (handle : Handle) :
    (∃ slot, heap.EndsAt handle slot) ∨ (∃ outside, heap.LeavesAt handle outside) ∨
      heap.Circles handle := by
  cases resolved : heap.resolve handle with
  | ok slot => exact .inl ⟨slot, resolve_eq_ok_iff_endsAt.mp resolved⟩
  | error cause =>
      rcases resolve_eq_error_iff.mp resolved with ⟨outside, leaves, _⟩ | ⟨circles, _⟩
      · exact .inr (.inl ⟨outside, leaves⟩)
      · exact .inr (.inr circles)

/-! ## Objects overwritten in place -/

/-- From one heap to another the object of a handle was overwritten, and nothing else
happened. -/
structure Overwritten (before after : Heap) (handle : Handle) (inst : Instance) : Prop where
  /-- All handles of the object read what it was overwritten with. -/
  written : ∀ other, before.sameIdentity other handle = true → after.get other = .ok inst
  /-- No handle is moved, those that lead nowhere included. -/
  unmoved : ∀ other, after.resolve other = before.resolve other
  /-- All other handles read what they read before, or fail as they failed. -/
  kept : ∀ other, before.sameIdentity other handle = false → after.get other = before.get other

theorem overwritten_of_replace {after : Heap} {inst : Instance} (isLive : inst.isLive = true)
    (replaced : heap.replace handle inst = .ok after) :
    heap.Overwritten after handle inst where
  written _ same := get_replace_of_same isLive replaced same
  unmoved other := resolve_replace_eq isLive replaced other
  kept _ different := get_replace_of_other isLive replaced different

/-- In place, too, an object is overwritten or nothing is changed. -/
theorem perform_replace (call : JavaLang.EmulatedCall) (handle : Handle) (inst : Instance) :
    (JavaLang.EmulatedM.replace handle inst).perform call =
      match call.heap.replace handle inst with
      | .ok after => (.ok (), { call with heap := after })
      | .error cause => (.error cause, call) := by
  rw [JavaLang.EmulatedM.replace, InPlace.perform_step]
  cases call.heap.replace handle inst with
  | ok after => rfl
  | error cause => rfl

/-- Where forwarding leads tells what `resolve` answers, and `resolve` tells where it leads:
to an object; out of the heap, at a number that is blamed; or in a circle, for which the
handle is blamed.  More steps would tell no more.  Overwriting an object with another is
seen through its handles and through no others, and when it fails nothing was changed. -/
theorem resolve_exact (heap : Heap) (handle : Handle) :
    (∀ slot, heap.resolve handle = .ok slot ↔ heap.EndsAt handle slot) ∧
      (∀ outside, heap.LeavesAt handle outside ↔
        heap.resolve handle = .error (.invalidReference outside) ∧ heap.size ≤ outside) ∧
      (heap.Circles handle ↔
        heap.resolve handle = .error (.invalidReference handle) ∧ handle < heap.size) ∧
      ((∃ slot, heap.EndsAt handle slot) ∨ (∃ outside, heap.LeavesAt handle outside) ∨
        heap.Circles handle) ∧
      (∀ steps, heap.size < steps →
        walk heap.slots handle steps handle = heap.resolve handle) ∧
      ∀ (call : JavaLang.EmulatedCall) (inst : Instance), call.heap = heap →
        match (JavaLang.EmulatedM.replace handle inst).perform call with
        | (.ok (), after) => inst.isLive = true → heap.Overwritten after.heap handle inst
        | (.error _, after) => after.heap = heap := by
  refine ⟨fun _ => resolve_eq_ok_iff_endsAt, fun _ => leavesAt_iff, circles_iff,
    exists_case heap handle, fun _ enough => walk_eq_resolve handle enough, ?_⟩
  rintro call inst rfl
  rw [perform_replace]
  cases replaced : call.heap.replace handle inst with
  | ok after => exact fun isLive => overwritten_of_replace isLive replaced
  | error cause => rfl

/-- All steps are needed by a chain through all slots that then leaves the heap. -/
example :
    walk #[.forwarded 1, .forwarded 2] 0 2 0 = .error (.invalidReference 0) ∧
      walk #[.forwarded 1, .forwarded 2] 0 3 0 = .error (.invalidReference 2) := by
  decide

/-- A heap in which slots 0 to 2 lead to an object, 3 and 4 to each other, and 5 out of the
heap. -/
def tangled : Heap where
  slots := #[.forwarded 1, .forwarded 2, .object "Lapp/Box;", .forwarded 4, .forwarded 3,
    .forwarded 9]
  capacity := 8

theorem resolve_exact_tangled :
    tangled.EndsAt 0 2 ∧ tangled.Circles 3 ∧ tangled.LeavesAt 5 9 ∧
      walk tangled.slots 3 100 3 = tangled.resolve 3 ∧
      ∃ after, tangled.replace 0 (.object "Lapp/Lid;") = .ok after ∧
        tangled.Overwritten after 0 (.object "Lapp/Lid;") := by
  obtain ⟨ends, _, _, _, _, overwriting⟩ := resolve_exact tangled 0
  obtain ⟨_, _, circles, _, longer, _⟩ := resolve_exact tangled 3
  obtain ⟨_, leaves, _⟩ := resolve_exact tangled 5
  have written := overwriting { method := default, frame := Frame.blank 0 0, heap := tangled }
    (.object "Lapp/Lid;") rfl
  exact ⟨(ends 2).mp (by decide), circles.mpr (by decide), (leaves 9).mpr (by decide),
    longer 100 (by decide), _, rfl, written rfl⟩

end Callsite.Heap
