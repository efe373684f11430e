import Callsite.Proofs.Heap.Trail
import Mathlib.Logic.Relation

/-!
# Edits of a heap

A heap is edited by putting an object into a new slot, by overwriting an object
in place, and by forwarding one object to another.  Each kind of edit is described
by what it does to `resolve`.  However many edits are made, a handle that resolved
keeps resolving (`Edits.resolves`), a heap whose slots all resolve stays one
(`Edits.sound`), and the heap neither shrinks nor outgrows its capacity.
-/

namespace Callsite.Heap

/-- The handle denotes an object of the heap. -/
def Resolves (heap : Heap) (handle : Handle) : Prop :=
  ∃ slot, heap.resolve handle = .ok slot

/-- Every slot of the heap leads to an object. -/
def Sound (heap : Heap) : Prop :=
  ∀ handle < heap.size, heap.Resolves handle

variable {heap after : Heap} {handle slot old new source target : Handle}
  {inst : Instance}

theorem Resolves.lt_size (resolves : heap.Resolves handle) : handle < heap.size := by
  obtain ⟨slot, resolved⟩ := resolves
  obtain ⟨passed, trail⟩ := resolve_eq_ok_iff.mp resolved
  exact trail.head_lt_size

theorem Sound.resolves_iff (sound : heap.Sound) :
    heap.Resolves handle ↔ handle < heap.size :=
  ⟨Resolves.lt_size, sound handle⟩

theorem sound_empty (capacity : Nat) : (empty capacity).Sound := by
  intro handle inside
  rw [size_empty] at inside
  omega

/-- Beyond the slots of a heap nothing can be read. -/
theorem get_of_size_le (outside : heap.size ≤ handle) :
    heap.get handle = .error (.invalidReference handle) := by
  have missing : heap.slots[handle]? = none := Array.getElem?_eq_none outside
  have unresolved : heap.resolve handle = .error (.invalidReference handle) := by
    rw [resolve, walk, missing]
  rw [get, unresolved]

/-- The handles that resolve are those whose object can be read. -/
theorem resolves_iff_exists_get :
    heap.Resolves handle ↔ ∃ inst, heap.get handle = .ok inst := by
  constructor
  · intro ⟨slot, resolved⟩
    obtain ⟨inst, found, _⟩ := heap.isLive_of_resolve resolved
    exact ⟨inst, heap.get_eq_ok.mpr ⟨slot, resolved, found⟩⟩
  · intro ⟨inst, read⟩
    obtain ⟨slot, resolved, _⟩ := heap.get_eq_ok.mp read
    exact ⟨slot, resolved⟩

theorem getElem?_set (slot other : Handle) (inst : Instance) :
    (heap.set slot inst).slots[other]? =
      if other = slot ∧ slot < heap.size then some inst else heap.slots[other]? := by
  simp only [set, size, Array.getElem?_setIfInBounds]
  by_cases same : slot = other
  · subst same
    by_cases inside : slot < heap.slots.size
    · simp [inside]
    · simp [inside]
  · simp [same, Ne.symm same]

/-! ## New slots -/

/-- A new object resolves to its own slot. -/
theorem resolve_alloc_self {grown : Heap} (isLive : inst.isLive = true)
    (allocated : heap.alloc inst = .ok (new, grown)) :
    grown.resolve new = .ok new := by
  obtain ⟨_, rfl, rfl⟩ := heap.alloc_eq_ok.mp allocated
  apply resolve_self_iff.mpr
  exact ⟨inst, by simp [size], isLive⟩

theorem Trail.push {slots : Array Instance} {passed : List Handle}
    (trail : Trail slots handle passed slot) (inst : Instance) :
    Trail (slots.push inst) handle passed slot := by
  induction trail with
  | live found isLive =>
      refine .live ?_ isLive
      rw [Array.getElem?_push_lt (Array.getElem?_eq_some_iff.mp found).1]
      exact congrArg some (Array.getElem?_eq_some_iff.mp found).2
  | forwarded next _ ih =>
      refine .forwarded ?_ ih
      rw [Array.getElem?_push_lt (Array.getElem?_eq_some_iff.mp next).1]
      exact congrArg some (Array.getElem?_eq_some_iff.mp next).2

/-- A new object leaves all handles where they were. -/
theorem resolve_alloc {grown : Heap}
    (allocated : heap.alloc inst = .ok (new, grown))
    (resolved : heap.resolve handle = .ok slot) :
    grown.resolve handle = .ok slot := by
  obtain ⟨_, rfl, rfl⟩ := heap.alloc_eq_ok.mp allocated
  obtain ⟨passed, trail⟩ := resolve_eq_ok_iff.mp resolved
  exact resolve_eq_ok_iff.mpr ⟨passed, trail.push inst⟩

/-! ## Objects overwritten in place -/

theorem Trail.set_live {passed : List Handle}
    (trail : Trail heap.slots handle passed slot)
    (here : heap.resolve target = .ok target) (isLive : inst.isLive = true) :
    Trail (heap.set target inst).slots handle passed slot := by
  have inside := heap.resolve_lt_size here
  obtain ⟨previous, present, previousLive⟩ := resolve_self_iff.mp here
  induction trail with
  | @live head _ found headLive =>
      by_cases same : head = target
      · subst same
        exact .live (by simp [getElem?_set, inside]) isLive
      · exact .live (by rw [getElem?_set, if_neg (by simp [same])]; exact found) headLive
  | @forwarded head _ _ _ next _ ih =>
      have different : head ≠ target := by
        rintro rfl
        rw [present] at next
        cases next
        cases previousLive
      refine .forwarded ?_ ih
      rw [getElem?_set, if_neg (by simp [different])]
      exact next

theorem replace_eq_ok :
    heap.replace handle inst = .ok after ↔
      ∃ slot, heap.resolve handle = .ok slot ∧ after = heap.set slot inst := by
  rw [replace]
  split
  · next error failed => simp [failed]
  · next slot resolved => simp [resolved, eq_comm]

/-- The slot where the object of a handle lives resolves to itself. -/
theorem resolve_slot (resolved : heap.resolve handle = .ok slot) :
    heap.resolve slot = .ok slot :=
  resolve_self_iff.mpr (heap.isLive_of_resolve resolved)

/-- Overwriting an object in place leaves all handles where they were. -/
theorem resolve_replace (isLive : inst.isLive = true)
    (replaced : heap.replace old inst = .ok after)
    (resolved : heap.resolve handle = .ok slot) :
    after.resolve handle = .ok slot := by
  obtain ⟨target, found, rfl⟩ := replace_eq_ok.mp replaced
  obtain ⟨passed, trail⟩ := resolve_eq_ok_iff.mp resolved
  exact resolve_eq_ok_iff.mpr ⟨passed, trail.set_live (resolve_slot found) isLive⟩

/-! ## Objects forwarded to others -/

theorem forward_eq_ok :
    heap.forward old new = .ok after ↔
      ∃ source target, heap.resolve old = .ok source ∧
        heap.resolve new = .ok target ∧
        after = if source = target then heap else heap.set source (.forwarded target) := by
  rw [forward]
  split
  · next error failed => simp [failed]
  · next source found =>
      split
      · next error failed => simp [failed]
      · next target reached => simp [found, reached, eq_comm]

/-- Forwarding fails only for a handle that denotes no object. -/
theorem exists_forward (oldResolves : heap.Resolves old)
    (newResolves : heap.Resolves new) : ∃ after, heap.forward old new = .ok after := by
  obtain ⟨source, found⟩ := oldResolves
  obtain ⟨target, reached⟩ := newResolves
  exact ⟨_, forward_eq_ok.mpr ⟨source, target, found, reached, rfl⟩⟩

theorem Trail.set_forwarded {passed : List Handle}
    (trail : Trail heap.slots handle passed slot)
    (sourceHere : heap.resolve source = .ok source)
    (targetHere : heap.resolve target = .ok target) (different : source ≠ target) :
    ∃ longer, Trail (heap.set source (.forwarded target)).slots handle longer
      (if slot = source then target else slot) := by
  have inside := heap.resolve_lt_size sourceHere
  obtain ⟨previous, present, previousLive⟩ := resolve_self_iff.mp sourceHere
  obtain ⟨object, there, objectLive⟩ := resolve_self_iff.mp targetHere
  induction trail with
  | @live head _ found headLive =>
      by_cases same : head = source
      · subst same
        have atTarget : Trail (heap.set head (.forwarded target)).slots target [target]
            target := by
          refine .live ?_ objectLive
          rw [getElem?_set, if_neg (by simp [Ne.symm different])]
          exact there
        have leaves : (heap.set head (.forwarded target)).slots[head]? =
            some (.forwarded target) := by
          simp [getElem?_set, inside]
        exact ⟨_, .forwarded leaves (by simpa using atTarget)⟩
      · rw [if_neg same]
        refine ⟨_, .live ?_ headLive⟩
        rw [getElem?_set, if_neg (by simp [same])]
        exact found
  | @forwarded head _ _ _ next _ ih =>
      have notSource : head ≠ source := by
        rintro rfl
        rw [present] at next
        cases next
        cases previousLive
      obtain ⟨longer, continued⟩ := ih
      refine ⟨_, .forwarded ?_ continued⟩
      rw [getElem?_set, if_neg (by simp [notSource])]
      exact next

/-- After forwarding, the handles of the old object are handles of the new one,
and all others stay where they were. -/
theorem resolve_forward (forwarded : heap.forward old new = .ok after)
    (found : heap.resolve old = .ok source) (reached : heap.resolve new = .ok target)
    (resolved : heap.resolve handle = .ok slot) :
    after.resolve handle = .ok (if slot = source then target else slot) := by
  obtain ⟨_, _, foundAgain, reachedAgain, rfl⟩ := forward_eq_ok.mp forwarded
  rw [found] at foundAgain
  rw [reached] at reachedAgain
  cases foundAgain
  cases reachedAgain
  by_cases same : source = target
  · subst same
    rw [if_pos rfl, resolved]
    split
    · next here => rw [here]
    · rfl
  · rw [if_neg same]
    obtain ⟨passed, trail⟩ := resolve_eq_ok_iff.mp resolved
    exact resolve_eq_ok_iff.mpr
      (trail.set_forwarded (resolve_slot found) (resolve_slot reached) same)

/-! ## Sequences of edits -/

/-- One edit of a heap. -/
inductive Edit : Heap → Heap → Prop where
  | alloc {heap grown : Heap} {inst : Instance} {handle : Handle} :
      inst.isLive = true → heap.alloc inst = .ok (handle, grown) → Edit heap grown
  | replace {heap after : Heap} {inst : Instance} {handle : Handle} :
      inst.isLive = true → heap.replace handle inst = .ok after → Edit heap after
  | forward {heap after : Heap} {old new : Handle} :
      heap.forward old new = .ok after → Edit heap after

/-- Any number of edits of a heap, one after another. -/
abbrev Edits : Heap → Heap → Prop := Relation.ReflTransGen Edit

namespace Edit

theorem resolves (edit : Edit heap after) (resolves : heap.Resolves handle) :
    after.Resolves handle := by
  obtain ⟨slot, resolved⟩ := resolves
  cases edit with
  | alloc _ allocated => exact ⟨slot, resolve_alloc allocated resolved⟩
  | replace isLive replaced => exact ⟨slot, resolve_replace isLive replaced resolved⟩
  | forward forwarded =>
      obtain ⟨_, _, found, reached, _⟩ := forward_eq_ok.mp forwarded
      exact ⟨_, resolve_forward forwarded found reached resolved⟩

/-- An edit adds at most one slot, and only within the capacity. -/
theorem size_cases (edit : Edit heap after) :
    after.size = heap.size ∨
      after.size = heap.size + 1 ∧ heap.size < heap.capacity := by
  cases edit with
  | alloc _ allocated =>
      obtain ⟨room, _, rfl⟩ := heap.alloc_eq_ok.mp allocated
      exact .inr ⟨by simp [size], room⟩
  | replace _ replaced =>
      obtain ⟨_, _, rfl⟩ := replace_eq_ok.mp replaced
      exact .inl (heap.size_set _ _)
  | forward forwarded =>
      obtain ⟨_, _, _, _, rfl⟩ := forward_eq_ok.mp forwarded
      left
      split
      · rfl
      · exact heap.size_set _ _

theorem capacity_eq (edit : Edit heap after) : after.capacity = heap.capacity := by
  cases edit with
  | alloc _ allocated =>
      obtain ⟨_, _, rfl⟩ := heap.alloc_eq_ok.mp allocated
      rfl
  | replace _ replaced =>
      obtain ⟨_, _, rfl⟩ := replace_eq_ok.mp replaced
      rfl
  | forward forwarded =>
      obtain ⟨_, _, _, _, rfl⟩ := forward_eq_ok.mp forwarded
      split <;> rfl

/-- A slot that an edit adds leads to an object, namely the new one. -/
theorem sound (edit : Edit heap after) (sound : heap.Sound) : after.Sound := by
  intro handle inside
  by_cases present : handle < heap.size
  · exact edit.resolves (sound handle present)
  · cases edit with
    | alloc isLive allocated =>
        have created := resolve_alloc_self isLive allocated
        obtain ⟨_, rfl, rfl⟩ := heap.alloc_eq_ok.mp allocated
        have last : handle = heap.size := by
          simp only [size, Array.size_push] at inside present
          simp only [size]
          omega
        rw [last]
        exact ⟨_, created⟩
    | replace _ replaced =>
        obtain ⟨_, _, rfl⟩ := replace_eq_ok.mp replaced
        rw [size_set] at inside
        exact absurd inside present
    | forward forwarded =>
        obtain ⟨_, _, _, _, rfl⟩ := forward_eq_ok.mp forwarded
        split at inside
        · exact absurd inside present
        · rw [size_set] at inside
          exact absurd inside present

end Edit

namespace Edits

theorem resolves (edits : Edits heap after) (start : heap.Resolves handle) :
    after.Resolves handle := by
  induction edits with
  | refl => exact start
  | tail _ edit ih => exact edit.resolves ih

theorem size_le (edits : Edits heap after) : heap.size ≤ after.size := by
  induction edits with
  | refl => exact Nat.le_refl _
  | tail _ edit ih =>
      rcases edit.size_cases with same | ⟨grown, _⟩
      · omega
      · omega

theorem capacity_eq (edits : Edits heap after) : after.capacity = heap.capacity := by
  induction edits with
  | refl => rfl
  | tail _ edit ih => exact edit.capacity_eq.trans ih

theorem size_le_capacity (edits : Edits heap after)
    (within : heap.size ≤ heap.capacity) : after.size ≤ after.capacity := by
  induction edits with
  | refl => exact within
  | tail _ edit ih =>
      rw [edit.capacity_eq]
      rcases edit.size_cases with same | ⟨grown, room⟩
      · omega
      · omega

theorem sound (edits : Edits heap after) (start : heap.Sound) : after.Sound := by
  induction edits with
  | refl => exact start
  | tail _ edit ih => exact edit.sound ih

end Edits

/-- Any number of new objects put into a heap. -/
abbrev Growth : Heap → Heap → Prop :=
  Relation.ReflTransGen fun heap grown =>
    ∃ inst handle, inst.isLive = true ∧ heap.alloc inst = .ok (handle, grown)

theorem get_alloc {grown : Heap} (allocated : heap.alloc inst = .ok (new, grown))
    (resolves : heap.Resolves handle) : grown.get handle = heap.get handle := by
  obtain ⟨slot, resolved⟩ := resolves
  obtain ⟨object, found, _⟩ := heap.isLive_of_resolve resolved
  have here : heap.get handle = .ok object := heap.get_eq_ok.mpr ⟨slot, resolved, found⟩
  have still : grown.slots[slot]? = some object := by
    obtain ⟨_, _, rfl⟩ := heap.alloc_eq_ok.mp allocated
    simp only
    rw [Array.getElem?_push_lt (Array.getElem?_eq_some_iff.mp found).1]
    exact congrArg some (Array.getElem?_eq_some_iff.mp found).2
  rw [here]
  exact grown.get_eq_ok.mpr ⟨slot, resolve_alloc allocated resolved, still⟩

namespace Growth

theorem edits (growth : Growth heap after) : Edits heap after := by
  induction growth with
  | refl => exact .refl
  | tail _ step ih =>
      obtain ⟨_, _, isLive, allocated⟩ := step
      exact ih.tail (.alloc isLive allocated)

/-- New objects leave the present ones as they are. -/
theorem get_eq (growth : Growth heap after) (resolves : heap.Resolves handle) :
    after.get handle = heap.get handle := by
  induction growth with
  | refl => rfl
  | tail earlier step ih =>
      obtain ⟨_, _, _, allocated⟩ := step
      exact (get_alloc allocated (Edits.resolves (Growth.edits earlier) resolves)).trans ih

end Growth

end Callsite.Heap
