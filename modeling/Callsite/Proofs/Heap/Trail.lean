import Callsite.Heap
import Mathlib.Data.List.Perm.Subperm

/-!
# Forwarding trails

A trail lists the slots that forwarding passes from a handle to the slot of its
object.  There is at most one trail from a handle, so it meets no slot twice and
is no longer than the heap: the step budget of `resolve` never cuts off a walk
that would have ended, and `resolve_eq_ok_iff` says that `resolve` finds exactly
the ends of trails.
-/

namespace Callsite.Heap

/-- The slots that forwarding passes from a handle, the handle itself first, to
the slot that holds its object. -/
inductive Trail (slots : Array Instance) : Handle → List Handle → Handle → Prop where
  | live {handle : Handle} {inst : Instance} :
      slots[handle]? = some inst → inst.isLive = true →
      Trail slots handle [handle] handle
  | forwarded {handle next slot : Handle} {rest : List Handle} :
      slots[handle]? = some (.forwarded next) → Trail slots next rest slot →
      Trail slots handle (handle :: rest) slot

namespace Trail

variable {slots : Array Instance} {handle slot : Handle} {passed : List Handle}

/-- Where forwarding leads is determined by the slots. -/
theorem unique (trail : Trail slots handle passed slot) {otherPassed : List Handle}
    {otherSlot : Handle} (other : Trail slots handle otherPassed otherSlot) :
    passed = otherPassed ∧ slot = otherSlot := by
  induction trail generalizing otherPassed otherSlot with
  | live found isLive =>
      cases other with
      | live _ _ => exact ⟨rfl, rfl⟩
      | forwarded next _ =>
          rw [found] at next
          cases next
          cases isLive
  | forwarded next _ ih =>
      cases other with
      | live found isLive =>
          rw [next] at found
          cases found
          cases isLive
      | forwarded otherNext otherRest =>
          rw [next] at otherNext
          cases otherNext
          obtain ⟨rfl, rfl⟩ := ih otherRest
          exact ⟨rfl, rfl⟩

/-- From every slot that a trail passes, forwarding leads to the same end by a
trail that is no longer. -/
theorem exists_suffix (trail : Trail slots handle passed slot) {between : Handle}
    (member : between ∈ passed) :
    ∃ rest, Trail slots between rest slot ∧ rest.length ≤ passed.length := by
  induction trail with
  | live found isLive =>
      rw [List.mem_singleton] at member
      subst member
      exact ⟨_, .live found isLive, Nat.le_refl _⟩
  | @forwarded head _ _ tail next rest ih =>
      rcases List.mem_cons.mp member with rfl | later
      · exact ⟨_, .forwarded next rest, Nat.le_refl _⟩
      · obtain ⟨suffix, fromBetween, shorter⟩ := ih later
        refine ⟨suffix, fromBetween, ?_⟩
        rw [List.length_cons]
        omega

/-- A trail meets no slot twice: from a slot met again, forwarding would lead to
the end by two trails of different lengths. -/
theorem nodup (trail : Trail slots handle passed slot) : passed.Nodup := by
  induction trail with
  | live _ _ => exact List.pairwise_singleton _ _
  | @forwarded head _ _ tail next rest ih =>
      refine List.nodup_cons.mpr ⟨?_, ih⟩
      intro again
      obtain ⟨suffix, fromHead, shorter⟩ := rest.exists_suffix again
      have same := (fromHead.unique (.forwarded next rest)).1
      rw [same, List.length_cons] at shorter
      omega

theorem head_lt_size (trail : Trail slots handle passed slot) :
    handle < slots.size := by
  cases trail with
  | live found _ => exact (Array.getElem?_eq_some_iff.mp found).1
  | forwarded next _ => exact (Array.getElem?_eq_some_iff.mp next).1

theorem lt_size (trail : Trail slots handle passed slot) {between : Handle}
    (member : between ∈ passed) : between < slots.size := by
  obtain ⟨rest, fromBetween, _⟩ := trail.exists_suffix member
  exact fromBetween.head_lt_size

/-- A trail is no longer than the heap. -/
theorem length_le (trail : Trail slots handle passed slot) :
    passed.length ≤ slots.size := by
  have contained : passed ⊆ List.range slots.size := by
    intro between member
    exact List.mem_range.mpr (trail.lt_size member)
  have bounded := (trail.nodup.subperm contained).length_le
  rwa [List.length_range] at bounded

/-- A walk with as many steps as a trail has slots ends where the trail ends. -/
theorem walk_eq_ok (trail : Trail slots handle passed slot) {start steps : Nat}
    (enough : passed.length ≤ steps) : walk slots start steps handle = .ok slot := by
  induction trail generalizing steps with
  | live found isLive =>
      obtain ⟨steps, rfl⟩ : ∃ fewer, steps = fewer + 1 := by
        rw [List.length_singleton] at enough
        exact ⟨steps - 1, by omega⟩
      have notForwarded := Instance.isLive_iff.mp isLive
      simp only [walk, found]
  | forwarded next _ ih =>
      rw [List.length_cons] at enough
      obtain ⟨steps, rfl⟩ : ∃ fewer, steps = fewer + 1 := ⟨steps - 1, by omega⟩
      simp only [walk, next]
      exact ih (by omega)

end Trail

/-- A walk that ends has followed a trail. -/
theorem exists_trail_of_walk {slots : Array Instance} {start current slot : Handle}
    {steps : Nat} (walked : walk slots start steps current = .ok slot) :
    ∃ passed, Trail slots current passed slot := by
  induction steps generalizing current with
  | zero => cases walked
  | succ steps ih =>
      simp only [walk] at walked
      split at walked
      · cases walked
      · next next found =>
          obtain ⟨rest, trail⟩ := ih walked
          exact ⟨_, .forwarded found trail⟩
      · next inst notForwarded found =>
          cases walked
          exact ⟨_, .live found (Instance.isLive_iff.mpr notForwarded)⟩

variable {heap : Heap} {handle slot : Handle}

/-- Resolving a handle finds the end of its trail, and only that. -/
theorem resolve_eq_ok_iff :
    heap.resolve handle = .ok slot ↔
      ∃ passed, Trail heap.slots handle passed slot := by
  constructor
  · intro resolved
    exact exists_trail_of_walk resolved
  · intro ⟨passed, trail⟩
    exact trail.walk_eq_ok (Nat.le_succ_of_le trail.length_le)

/-- A handle resolves to itself exactly if its slot holds an object. -/
theorem resolve_self_iff :
    heap.resolve handle = .ok handle ↔
      ∃ inst, heap.slots[handle]? = some inst ∧ inst.isLive = true := by
  constructor
  · intro resolved
    exact heap.isLive_of_resolve resolved
  · intro ⟨inst, found, isLive⟩
    exact resolve_eq_ok_iff.mpr ⟨_, .live found isLive⟩

end Callsite.Heap
