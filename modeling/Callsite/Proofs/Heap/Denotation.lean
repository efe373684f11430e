import Callsite.Proofs.Heap.Edit

/-!
# What handles denote after an edit

Every edit of a heap is described for all handles at once, those included that dangle
or run in circles.  A new object is denoted by handles that denoted nothing before, an
object overwritten in place moves no handle, and forwarding moves the handles of one
object to another object (`Merge`).  Reading follows: an edit changes what is read
through a handle only if the handle denotes the object that the edit is about.
-/

namespace Callsite.Heap

variable {heap after grown : Heap} {handle slot source target old new left right : Handle}
  {inst : Instance}

/-- Handles of the same object resolve to one slot. -/
theorem sameIdentity_iff :
    heap.sameIdentity left right = true ↔
      ∃ slot, heap.resolve left = .ok slot ∧ heap.resolve right = .ok slot := by
  rw [sameIdentity]
  cases heap.resolve left with
  | error cause => simp
  | ok first =>
      cases heap.resolve right with
      | error cause => simp
      | ok second =>
          simp only [beq_iff_eq, Except.ok.injEq]
          constructor
          · rintro rfl
            exact ⟨first, rfl, rfl⟩
          · rintro ⟨slot, rfl, rfl⟩
            rfl

/-- Among handles that denote objects, the same object means the same slot. -/
theorem sameIdentity_iff_of_resolves (leftResolves : heap.Resolves left)
    (rightResolves : heap.Resolves right) :
    heap.sameIdentity left right = true ↔ heap.resolve left = heap.resolve right := by
  obtain ⟨first, atFirst⟩ := leftResolves
  obtain ⟨second, atSecond⟩ := rightResolves
  simp [sameIdentity, atFirst, atSecond]

theorem sameIdentity_self (resolves : heap.Resolves handle) :
    heap.sameIdentity handle handle = true := by
  apply (sameIdentity_iff_of_resolves resolves resolves).mpr
  rfl

theorem sameIdentity_symm (same : heap.sameIdentity left right = true) :
    heap.sameIdentity right left = true := by
  obtain ⟨slot, atLeft, atRight⟩ := sameIdentity_iff.mp same
  exact sameIdentity_iff.mpr ⟨slot, atRight, atLeft⟩

theorem sameIdentity_trans (first : heap.sameIdentity left handle = true)
    (second : heap.sameIdentity handle right = true) :
    heap.sameIdentity left right = true := by
  obtain ⟨slot, atLeft, here⟩ := sameIdentity_iff.mp first
  obtain ⟨other, there, atRight⟩ := sameIdentity_iff.mp second
  rw [here] at there
  cases there
  exact sameIdentity_iff.mpr ⟨slot, atLeft, atRight⟩

/-- What is read through a handle is what its slot holds. -/
theorem get_of_resolve (resolved : heap.resolve handle = .ok slot)
    (found : heap.slots[slot]? = some inst) : heap.get handle = .ok inst :=
  heap.get_eq_ok.mpr ⟨slot, resolved, found⟩

/-- Handles of one object read the same. -/
theorem get_congr (same : heap.sameIdentity left right = true) :
    heap.get left = heap.get right := by
  obtain ⟨slot, atLeft, atRight⟩ := sameIdentity_iff.mp same
  simp only [get, atLeft, atRight]

/-- Two heaps that agree on where a handle leads and on what is there read the same. -/
theorem get_eq_of_slot (resolved : heap.resolve handle = .ok slot)
    (still : after.resolve handle = .ok slot) (kept : after.slots[slot]? = heap.slots[slot]?) :
    after.get handle = heap.get handle := by
  simp only [get, resolved, still, kept]

/-! ## Slots that a walk does not end at -/

/-- A walk that does not end at the slot of an object does not notice that the slot is
overwritten: it would have ended there if it had come there. -/
theorem walk_set_of_unreached {start current : Handle} {steps : Nat}
    (here : heap.resolve source = .ok source)
    (unreached : walk heap.slots start steps current ≠ .ok source) :
    walk (heap.set source inst).slots start steps current =
      walk heap.slots start steps current := by
  obtain ⟨object, present, isLive⟩ := resolve_self_iff.mp here
  induction steps generalizing current with
  | zero => rfl
  | succ steps ih =>
      by_cases atSource : current = source
      · subst atSource
        have notForwarded := Instance.isLive_iff.mp isLive
        simp only [walk, present] at unreached
        exact absurd rfl unreached
      · simp only [walk] at unreached ⊢
        rw [getElem?_set, if_neg (by simp [atSource])]
        cases found : heap.slots[current]? with
        | none => rfl
        | some inst =>
            cases inst with
            | forwarded next =>
                simp only [found] at unreached
                exact ih unreached
            | uninitialized type => rfl
            | object type => rfl
            | string text => rfl
            | builder text => rfl
            | classObject type => rfl

/-- Overwriting the slot of an object, be it with a forwarding, leaves the handles of all
other objects where they were, and all dangling handles dangling as they were. -/
theorem resolve_set_of_unreached (here : heap.resolve source = .ok source)
    (unreached : heap.resolve handle ≠ .ok source) :
    (heap.set source inst).resolve handle = heap.resolve handle := by
  rw [resolve, resolve, size_set]
  exact walk_set_of_unreached here unreached

/-! ## New objects -/

theorem Trail.of_push {slots : Array Instance} {passed : List Handle}
    (isLive : inst.isLive = true) (trail : Trail (slots.push inst) handle passed slot)
    (elsewhere : slot ≠ slots.size) : Trail slots handle passed slot := by
  have inside (index : Handle) (present : Instance)
      (found : (slots.push inst)[index]? = some present) (different : index ≠ slots.size) :
      slots[index]? = some present := by
    rwa [Array.getElem?_push, if_neg different] at found
  induction trail with
  | live found headLive => exact .live (inside _ _ found elsewhere) headLive
  | @forwarded head _ _ _ next _ ih =>
      refine .forwarded (inside _ _ next ?_) (ih elsewhere)
      -- the new slot holds an object, so that no trail passes through it
      rintro rfl
      rw [Array.getElem?_push_size] at next
      cases next
      cases isLive

/-- A new object is denoted by handles that denoted nothing before; all others lead where
they led. -/
theorem resolve_alloc_iff (isLive : inst.isLive = true)
    (allocated : heap.alloc inst = .ok (new, grown)) :
    heap.resolve handle = .ok slot ↔ grown.resolve handle = .ok slot ∧ slot ≠ new := by
  constructor
  · intro resolved
    refine ⟨resolve_alloc allocated resolved, ?_⟩
    have inside := heap.resolve_lt_size resolved
    rw [(heap.alloc_eq_ok.mp allocated).2.1]
    exact Nat.ne_of_lt inside
  · intro ⟨resolved, elsewhere⟩
    obtain ⟨_, rfl, rfl⟩ := heap.alloc_eq_ok.mp allocated
    obtain ⟨passed, trail⟩ := resolve_eq_ok_iff.mp resolved
    apply resolve_eq_ok_iff.mpr
    exact ⟨passed, trail.of_push isLive elsewhere⟩

/-- A new object is put into the slot of its handle. -/
theorem getElem?_alloc (allocated : heap.alloc inst = .ok (new, grown)) (slot : Handle) :
    grown.slots[slot]? = if slot = new then some inst else heap.slots[slot]? := by
  obtain ⟨_, rfl, rfl⟩ := heap.alloc_eq_ok.mp allocated
  exact Array.getElem?_push

theorem get_alloc_self (isLive : inst.isLive = true)
    (allocated : heap.alloc inst = .ok (new, grown)) : grown.get new = .ok inst := by
  apply get_of_resolve (resolve_alloc_self isLive allocated)
  rw [getElem?_alloc allocated, if_pos rfl]

/-- What is read through a handle after a new object was made was read before, unless it is
the new object. -/
theorem get_of_get_alloc {other : Instance} (isLive : inst.isLive = true)
    (allocated : heap.alloc inst = .ok (new, grown)) (read : grown.get handle = .ok other)
    (different : other ≠ inst) : heap.get handle = .ok other := by
  obtain ⟨slot, resolved, present⟩ := grown.get_eq_ok.mp read
  rw [getElem?_alloc allocated] at present
  split at present
  · cases present
    exact absurd rfl different
  · next elsewhere =>
      apply get_of_resolve ?_ present
      exact (resolve_alloc_iff isLive allocated).mpr ⟨resolved, elsewhere⟩

/-- The handle of a new object denoted nothing before. -/
theorem not_resolves_of_alloc (allocated : heap.alloc inst = .ok (new, grown)) :
    ¬ heap.Resolves new := by
  intro resolves
  have inside := resolves.lt_size
  rw [(heap.alloc_eq_ok.mp allocated).2.1] at inside
  exact Nat.lt_irrefl _ inside

/-- A heap with room takes a new object. -/
theorem exists_alloc (room : heap.size < heap.capacity) (inst : Instance) :
    ∃ new grown, heap.alloc inst = .ok (new, grown) :=
  ⟨_, _, heap.alloc_eq_ok.mpr ⟨room, rfl, rfl⟩⟩

/-! ## Objects overwritten in place -/

/-- Overwriting an object in place moves no handle. -/
theorem resolve_replace_eq (isLive : inst.isLive = true)
    (replaced : heap.replace old inst = .ok after) (handle : Handle) :
    after.resolve handle = heap.resolve handle := by
  obtain ⟨source, found, rfl⟩ := replace_eq_ok.mp replaced
  by_cases reached : heap.resolve handle = .ok source
  · rw [reached]
    exact resolve_replace isLive replaced reached
  · exact resolve_set_of_unreached (resolve_slot found) reached

/-- Every handle of an object that was overwritten reads what it was overwritten with. -/
theorem get_replace_of_same (isLive : inst.isLive = true)
    (replaced : heap.replace old inst = .ok after)
    (same : heap.sameIdentity handle old = true) : after.get handle = .ok inst := by
  obtain ⟨slot, resolved, oldResolved⟩ := sameIdentity_iff.mp same
  rw [← resolve_replace_eq isLive replaced] at resolved
  apply get_of_resolve resolved
  obtain ⟨source, found, rfl⟩ := replace_eq_ok.mp replaced
  rw [found] at oldResolved
  cases oldResolved
  simp [getElem?_set, heap.resolve_lt_size found]

/-- All other handles read what they read before. -/
theorem get_replace_of_other (isLive : inst.isLive = true)
    (replaced : heap.replace old inst = .ok after)
    (different : heap.sameIdentity handle old = false) :
    after.get handle = heap.get handle := by
  have still := resolve_replace_eq isLive replaced handle
  cases resolved : heap.resolve handle with
  | error cause =>
      rw [resolved] at still
      simp only [get, resolved, still]
  | ok slot =>
      rw [resolved] at still
      apply get_eq_of_slot resolved still
      obtain ⟨source, found, rfl⟩ := replace_eq_ok.mp replaced
      rw [getElem?_set, if_neg]
      rintro ⟨rfl, _⟩
      simp [sameIdentity, resolved, found] at different

/-! ## Objects forwarded to others -/

/-- From one heap to another the handles of one object became handles of another object,
the one behind `new`.  All other handles lead where they led, also those that lead
nowhere. -/
structure Merge (before after : Heap) (old new : Handle) : Prop where
  joined : ∀ source, before.resolve old = .ok source →
    ∃ target, before.resolve new = .ok target ∧ after.resolve new = .ok target ∧
      ∀ handle, before.resolve handle = .ok source → after.resolve handle = .ok target
  kept : ∀ handle, (∀ source, before.resolve old = .ok source →
    before.resolve handle ≠ .ok source) → after.resolve handle = before.resolve handle

/-- Nothing has to be done for handles that lead to the same place already. -/
theorem Merge.of_resolve_eq (same : heap.resolve old = heap.resolve new) :
    heap.Merge heap old new where
  joined source found := by
    rw [same] at found
    exact ⟨source, found, found, fun _ resolved => resolved⟩
  kept _ _ := rfl

namespace Merge

variable (merge : heap.Merge after old new)
include merge

/-- The new object stays where it is. -/
theorem resolve_new : after.resolve new = heap.resolve new := by
  by_cases resolves : heap.Resolves old
  · obtain ⟨source, found⟩ := resolves
    obtain ⟨target, reached, stays, _⟩ := merge.joined source found
    rw [reached, stays]
  · apply merge.kept
    intro source found
    exact absurd ⟨source, found⟩ resolves

/-- Handles that lead to one place before a merge do so after it. -/
theorem resolve_congr (same : heap.resolve left = heap.resolve right) :
    after.resolve left = after.resolve right := by
  by_cases ofOld : ∃ source, heap.resolve old = .ok source ∧ heap.resolve left = .ok source
  · obtain ⟨source, found, resolved⟩ := ofOld
    obtain ⟨target, _, _, moved⟩ := merge.joined source found
    rw [moved left resolved, moved right (same ▸ resolved)]
  · have apart : ∀ source, heap.resolve old = .ok source → heap.resolve left ≠ .ok source :=
      fun source found resolved => ofOld ⟨source, found, resolved⟩
    rw [merge.kept left apart, merge.kept right (same ▸ apart)]
    exact same

/-- What denoted the old object denotes the new one. -/
theorem sameIdentity (same : heap.sameIdentity handle old = true) :
    after.sameIdentity handle new = true := by
  obtain ⟨source, resolved, found⟩ := sameIdentity_iff.mp same
  obtain ⟨target, _, stays, moved⟩ := merge.joined source found
  apply sameIdentity_iff.mpr
  exact ⟨target, moved handle resolved, stays⟩

end Merge

theorem merge_of_forward (forwarded : heap.forward old new = .ok after) :
    heap.Merge after old new where
  joined source found := by
    obtain ⟨_, target, _, reached, _⟩ := forward_eq_ok.mp forwarded
    refine ⟨target, reached, ?_, ?_⟩
    · have moved := resolve_forward forwarded found reached reached
      by_cases same : target = source
      · rwa [if_pos same] at moved
      · rwa [if_neg same] at moved
    · intro handle resolved
      have moved := resolve_forward forwarded found reached resolved
      rwa [if_pos rfl] at moved
  kept handle apart := by
    obtain ⟨source, target, found, reached, rfl⟩ := forward_eq_ok.mp forwarded
    split
    · rfl
    · exact resolve_set_of_unreached (resolve_slot found) (apart source found)

/-- Forwarding writes the slot of the old object only. -/
theorem getElem?_forward (forwarded : heap.forward old new = .ok after)
    (found : heap.resolve old = .ok source) (elsewhere : slot ≠ source) :
    after.slots[slot]? = heap.slots[slot]? := by
  obtain ⟨_, _, foundAgain, _, rfl⟩ := forward_eq_ok.mp forwarded
  rw [found] at foundAgain
  cases foundAgain
  split
  · rfl
  · rw [getElem?_set, if_neg (by simp [elsewhere])]

/-! ## Edits keep identities -/

/-- Handles of the same object stay handles of the same object. -/
theorem Edit.sameIdentity (edit : Edit heap after)
    (same : heap.sameIdentity left right = true) : after.sameIdentity left right = true := by
  obtain ⟨slot, atLeft, atRight⟩ := sameIdentity_iff.mp same
  apply sameIdentity_iff.mpr
  cases edit with
  | alloc _ allocated =>
      exact ⟨slot, resolve_alloc allocated atLeft, resolve_alloc allocated atRight⟩
  | replace isLive replaced =>
      exact ⟨slot, resolve_replace isLive replaced atLeft,
        resolve_replace isLive replaced atRight⟩
  | forward forwarded =>
      obtain ⟨_, _, found, reached, _⟩ := forward_eq_ok.mp forwarded
      exact ⟨_, resolve_forward forwarded found reached atLeft,
        resolve_forward forwarded found reached atRight⟩

theorem Edits.sameIdentity (edits : Edits heap after)
    (same : heap.sameIdentity left right = true) : after.sameIdentity left right = true := by
  induction edits with
  | refl => exact same
  | tail _ edit ih => exact edit.sameIdentity ih

end Callsite.Heap
