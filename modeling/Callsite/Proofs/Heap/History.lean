import Callsite.Heap.Store
import Callsite.Proofs.Heap.Denotation

/-!
# Histories of heaps

A heap comes about by operations on it, one at a time, and by being copied from another
heap.  A chronicle runs such operations and keeps the history of each heap: the handles it
gave out and the pairs it forwarded, those of the heap it is a copy of included.  However
the operations are mixed, every handle of a heap leads to an object, no handle is given
out twice, and two handles are of the same object exactly if the forwarded pairs connect
them.  So a heap is a union-find structure, whatever the order of its forwards.
-/

namespace Callsite

/-- An object, as opposed to a forwarding. -/
abbrev LiveInstance := { inst : Instance // inst.isLive = true }

/-- One operation on one of several heaps. -/
inductive HeapStep where
  | alloc (id : HeapId) (object : LiveInstance)
  | replace (id : HeapId) (handle : Handle) (object : LiveInstance)
  | forward (id : HeapId) (old new : Handle)
  /-- Copy a heap under a new number. -/
  | fork (id : HeapId)

/-- What was done to a heap, or to the heap that it is a copy of before it was copied. -/
structure HeapHistory where
  /-- The handles that were given out, latest first. -/
  allocated : List Handle := []
  /-- The pairs of which the first handle was forwarded to the second, latest first. -/
  forwarded : List (Handle × Handle) := []

namespace HeapHistory

/-- The first handle was forwarded to the second. -/
def Forwards (history : HeapHistory) (old new : Handle) : Prop :=
  (old, new) ∈ history.forwarded

/-- The history with one more handle given out. -/
def recordAlloc (history : HeapHistory) (handle : Handle) : HeapHistory :=
  { history with allocated := handle :: history.allocated }

/-- The history with one more pair forwarded. -/
def recordForward (history : HeapHistory) (old new : Handle) : HeapHistory :=
  { history with forwarded := (old, new) :: history.forwarded }

theorem forwards_recordForward {history : HeapHistory} {old new left right : Handle} :
    (history.recordForward old new).Forwards left right ↔
      left = old ∧ right = new ∨ history.Forwards left right := by
  simp [Forwards, recordForward]

end HeapHistory

/-- Several heaps and the history of each. -/
structure Chronicle where
  heaps : HeapStore
  history : HeapId → HeapHistory

namespace Chronicle

/-- One heap without objects. -/
def start (capacity : Nat) : Chronicle where
  heaps := (HeapStore.empty.add (Heap.empty capacity)).2
  history := fun _ => {}

/-- A heap takes the place of an earlier state of it. -/
def write (chronicle : Chronicle) (id : HeapId) (heap : Heap) (history : HeapHistory) :
    Chronicle where
  heaps := chronicle.heaps.set id heap
  history := fun other => if other = id then history else chronicle.history other

/-- Carry out an operation.  One that fails changes nothing. -/
def step (chronicle : Chronicle) : HeapStep → Chronicle
  | .alloc id object =>
      match (chronicle.heaps.get id).alloc object.val with
      | .error _ => chronicle
      | .ok (handle, grown) =>
          chronicle.write id grown ((chronicle.history id).recordAlloc handle)
  | .replace id handle object =>
      match (chronicle.heaps.get id).replace handle object.val with
      | .error _ => chronicle
      | .ok after => chronicle.write id after (chronicle.history id)
  | .forward id old new =>
      match (chronicle.heaps.get id).forward old new with
      | .error _ => chronicle
      | .ok after => chronicle.write id after ((chronicle.history id).recordForward old new)
  | .fork id =>
      { heaps := (chronicle.heaps.add (chronicle.heaps.get id)).2
        history := fun other =>
          if other = chronicle.heaps.next then chronicle.history id
          else chronicle.history other }

/-- Carry out operations one after another. -/
def run (chronicle : Chronicle) (steps : List HeapStep) : Chronicle :=
  steps.foldl step chronicle

end Chronicle

/-- A point that a relation does not touch is equivalent to itself only. -/
theorem eq_iff_eq_of_eqvGen {α : Type} {rel : α → α → Prop} {point left right : α}
    (untouched : ∀ first second, rel first second → first ≠ point ∧ second ≠ point)
    (equivalent : Relation.EqvGen rel left right) : left = point ↔ right = point := by
  induction equivalent with
  | rel first second related =>
      have apart := untouched first second related
      constructor
      · intro same
        exact absurd same apart.1
      · intro same
        exact absurd same apart.2
  | refl _ => exact Iff.rfl
  | symm _ _ _ ih => exact ih.symm
  | trans _ _ _ _ _ first second => exact first.trans second

namespace Heap

variable {limit : Nat} {heap after grown : Heap} {history : HeapHistory}
  {handle old new left right slot : Handle} {inst : Instance}

/-- The history tells how the heap came about. -/
structure Recorded (limit : Nat) (heap : Heap) (history : HeapHistory) : Prop where
  sound : heap.Sound
  size_le_capacity : heap.size ≤ heap.capacity
  capacity_le : heap.capacity ≤ limit
  allocated_eq : history.allocated = (List.range heap.size).reverse
  /-- Only handles of the heap were forwarded. -/
  inside : ∀ old new, history.Forwards old new → old < heap.size ∧ new < heap.size
  /-- Handles lead to the same slot exactly if forwarded pairs connect them. -/
  classes : ∀ left < heap.size, ∀ right < heap.size,
    heap.resolve left = heap.resolve right ↔ Relation.EqvGen history.Forwards left right

theorem recorded_empty {capacity : Nat} (within : capacity ≤ limit) :
    (empty capacity).Recorded limit {} where
  sound := sound_empty capacity
  size_le_capacity := Nat.zero_le capacity
  capacity_le := within
  allocated_eq := rfl
  inside := by
    intro old new impossible
    cases impossible
  classes := by
    intro left impossible
    exact absurd impossible (Nat.not_lt_zero left)

/-- What an edit keeps of a record, if the history grew along with the heap. -/
theorem Recorded.edit (recorded : heap.Recorded limit history) (edit : Edit heap after)
    {later : HeapHistory} (allocated_eq : later.allocated = (List.range after.size).reverse)
    (inside : ∀ old new, later.Forwards old new → old < after.size ∧ new < after.size)
    (classes : ∀ left < after.size, ∀ right < after.size,
      after.resolve left = after.resolve right ↔ Relation.EqvGen later.Forwards left right) :
    after.Recorded limit later where
  sound := edit.sound recorded.sound
  size_le_capacity :=
    Edits.size_le_capacity (Relation.ReflTransGen.single edit) recorded.size_le_capacity
  capacity_le := by
    rw [edit.capacity_eq]
    exact recorded.capacity_le
  allocated_eq := allocated_eq
  inside := inside
  classes := classes

/-- A new handle is in a class of its own. -/
theorem Recorded.alloc (recorded : heap.Recorded limit history) (isLive : inst.isLive = true)
    (allocated : heap.alloc inst = .ok (new, grown)) :
    grown.Recorded limit (history.recordAlloc new) := by
  have new_eq : new = heap.size := (heap.alloc_eq_ok.mp allocated).2.1
  have size_eq : grown.size = heap.size + 1 := by
    obtain ⟨_, _, rfl⟩ := heap.alloc_eq_ok.mp allocated
    simp [size]
  have created := resolve_alloc_self isLive allocated
  have still {index : Handle} (present : index < heap.size) :
      grown.resolve index = heap.resolve index := by
    obtain ⟨slot, resolved⟩ := recorded.sound index present
    rw [resolved]
    exact resolve_alloc allocated resolved
  apply recorded.edit (.alloc isLive allocated)
  · rw [size_eq, List.range_succ, List.reverse_append, ← recorded.allocated_eq, ← new_eq]
    rfl
  · intro old forwarded related
    have bounds := recorded.inside old forwarded related
    rw [size_eq]
    exact ⟨Nat.lt_succ_of_lt bounds.1, Nat.lt_succ_of_lt bounds.2⟩
  · intro left leftInside right rightInside
    -- either side makes both handles the new one, or neither of them
    have atNew {index : Handle} (present : index < grown.size) :
        grown.resolve index = .ok new ↔ index = new := by
      constructor
      · intro resolved
        by_cases earlier : index < heap.size
        · rw [still earlier] at resolved
          exact absurd rfl ((resolve_alloc_iff isLive allocated).mp resolved).2
        · rw [size_eq] at present
          rw [new_eq]
          exact Nat.le_antisymm (Nat.le_of_lt_succ present) (Nat.le_of_not_lt earlier)
      · rintro rfl
        exact created
    have bothOrNone (both : left = new ↔ right = new) :
        grown.resolve left = grown.resolve right ↔
          Relation.EqvGen history.Forwards left right := by
      by_cases isNew : left = new
      · rw [isNew, both.mp isNew]
        exact iff_of_true rfl (.refl new)
      · have earlier {index : Handle} (present : index < grown.size)
            (different : index ≠ new) : index < heap.size := by
          rw [size_eq] at present
          rw [new_eq] at different
          exact Nat.lt_of_le_of_ne (Nat.le_of_lt_succ present) different
        have leftEarlier := earlier leftInside isNew
        have rightEarlier := earlier rightInside (mt both.mpr isNew)
        rw [still leftEarlier, still rightEarlier]
        exact recorded.classes left leftEarlier right rightEarlier
    constructor
    · intro same
      refine (bothOrNone ?_).mp same
      rw [← atNew leftInside, ← atNew rightInside, same]
    · intro equivalent
      refine (bothOrNone ?_).mpr equivalent
      refine eq_iff_eq_of_eqvGen ?_ equivalent
      intro first second related
      have bounds := recorded.inside first second related
      rw [new_eq]
      exact ⟨Nat.ne_of_lt bounds.1, Nat.ne_of_lt bounds.2⟩

/-- Overwriting an object in place leaves the classes alone. -/
theorem Recorded.replace (recorded : heap.Recorded limit history)
    (isLive : inst.isLive = true) (replaced : heap.replace old inst = .ok after) :
    after.Recorded limit history := by
  have size_eq : after.size = heap.size := by
    obtain ⟨slot, _, rfl⟩ := replace_eq_ok.mp replaced
    exact heap.size_set slot inst
  apply recorded.edit (.replace isLive replaced)
  · rw [size_eq]
    exact recorded.allocated_eq
  · rw [size_eq]
    exact recorded.inside
  · intro left leftInside right rightInside
    rw [size_eq] at leftInside rightInside
    rw [resolve_replace_eq isLive replaced, resolve_replace_eq isLive replaced]
    exact recorded.classes left leftInside right rightInside

/-- Forwarding joins the classes of the two handles and no others. -/
theorem Recorded.forward (recorded : heap.Recorded limit history)
    (forwarded : heap.forward old new = .ok after) :
    after.Recorded limit (history.recordForward old new) := by
  have merge := merge_of_forward forwarded
  obtain ⟨source, target, found, reached, _⟩ := forward_eq_ok.mp forwarded
  have oldInside : old < heap.size := Resolves.lt_size ⟨source, found⟩
  have newInside : new < heap.size := Resolves.lt_size ⟨target, reached⟩
  have size_eq : after.size = heap.size := by
    obtain ⟨_, _, _, _, rfl⟩ := forward_eq_ok.mp forwarded
    split
    · rfl
    · exact heap.size_set _ _
  have earlier {left right : Handle} (equivalent : Relation.EqvGen history.Forwards left right) :
      Relation.EqvGen (history.recordForward old new).Forwards left right := by
    refine equivalent.mono ?_
    intro first second related
    exact HeapHistory.forwards_recordForward.mpr (.inr related)
  have joined : Relation.EqvGen (history.recordForward old new).Forwards old new :=
    .rel old new (HeapHistory.forwards_recordForward.mpr (.inl ⟨rfl, rfl⟩))
  -- a handle is connected to the slot that it leads to now
  have toSlot {index : Handle} (present : index < heap.size) :
      ∃ slot, after.resolve index = .ok slot ∧
        Relation.EqvGen (history.recordForward old new).Forwards index slot := by
    obtain ⟨slot, resolved⟩ := recorded.sound index present
    have connected {first last : Handle} (resolved : heap.resolve first = .ok last) :
        Relation.EqvGen (history.recordForward old new).Forwards first last := by
      apply earlier
      apply (recorded.classes first (Resolves.lt_size ⟨last, resolved⟩) last
        (heap.resolve_lt_size resolved)).mp
      rw [resolved, resolve_slot resolved]
    have moved := resolve_forward forwarded found reached resolved
    by_cases ofOld : slot = source
    · rw [if_pos ofOld] at moved
      refine ⟨target, moved, ?_⟩
      have toOld := (connected found).symm
      rw [← ofOld] at toOld
      exact (connected resolved).trans _ _ _ (toOld.trans _ _ _
        (joined.trans _ _ _ (connected reached)))
    · rw [if_neg ofOld] at moved
      exact ⟨slot, moved, connected resolved⟩
  apply recorded.edit (.forward forwarded)
  · rw [size_eq]
    exact recorded.allocated_eq
  · rw [size_eq]
    intro left right related
    rcases HeapHistory.forwards_recordForward.mp related with ⟨rfl, rfl⟩ | before
    · exact ⟨oldInside, newInside⟩
    · exact recorded.inside left right before
  · rw [size_eq]
    intro left leftInside right rightInside
    constructor
    · intro same
      obtain ⟨slot, atLeft, leftToSlot⟩ := toSlot leftInside
      obtain ⟨other, atRight, rightToSlot⟩ := toSlot rightInside
      rw [atLeft, atRight] at same
      cases same
      exact leftToSlot.trans _ _ _ (rightToSlot.symm _ _)
    · intro equivalent
      clear leftInside rightInside
      induction equivalent with
      | rel first second related =>
          rcases HeapHistory.forwards_recordForward.mp related with ⟨rfl, rfl⟩ | before
          · obtain ⟨slot, _, atNew, moved⟩ := merge.joined source found
            rw [moved _ found, atNew]
          · apply merge.resolve_congr
            have bounds := recorded.inside first second before
            exact (recorded.classes first bounds.1 second bounds.2).mpr (.rel _ _ before)
      | refl _ => rfl
      | symm _ _ _ ih => exact ih.symm
      | trans _ _ _ _ _ first second => exact first.trans second

/-- The heap is a union-find structure on its handles, with the forwarded pairs for the
unions. -/
structure UnionFind (limit : Nat) (heap : Heap) (history : HeapHistory) : Prop where
  size_le : heap.size ≤ limit
  /-- Forwarding from a handle meets no slot twice and ends at an object. -/
  leads : ∀ handle < heap.size, ∃ passed slot inst,
    Trail heap.slots handle passed slot ∧ passed.Nodup ∧
      heap.resolve handle = .ok slot ∧ heap.slots[slot]? = some inst ∧ inst.isLive = true
  get : ∀ handle < heap.size, ∃ inst, heap.get handle = .ok inst
  forward : ∀ old < heap.size, ∀ new < heap.size, ∃ after, heap.forward old new = .ok after
  /-- Every handle of the heap was given out once, and no other was. -/
  allocated : history.allocated.Nodup ∧
    ∀ handle, handle ∈ history.allocated ↔ handle < heap.size
  /-- Identity is the least equivalence that contains the forwarded pairs. -/
  identity : ∀ left < heap.size, ∀ right < heap.size,
    heap.sameIdentity left right = true ↔ Relation.EqvGen history.Forwards left right

theorem Recorded.unionFind (recorded : heap.Recorded limit history) :
    heap.UnionFind limit history where
  size_le := Nat.le_trans recorded.size_le_capacity recorded.capacity_le
  leads handle inside := by
    obtain ⟨slot, resolved⟩ := recorded.sound handle inside
    obtain ⟨passed, trail⟩ := resolve_eq_ok_iff.mp resolved
    obtain ⟨inst, found, isLive⟩ := heap.isLive_of_resolve resolved
    exact ⟨passed, slot, inst, trail, trail.nodup, resolved, found, isLive⟩
  get handle inside := resolves_iff_exists_get.mp (recorded.sound handle inside)
  forward old oldInside new newInside :=
    exists_forward (recorded.sound old oldInside) (recorded.sound new newInside)
  allocated := by
    rw [recorded.allocated_eq]
    constructor
    · exact (List.reverse_perm _).nodup_iff.mpr List.nodup_range
    · intro handle
      rw [List.mem_reverse, List.mem_range]
  identity left leftInside right rightInside := by
    rw [← recorded.classes left leftInside right rightInside]
    exact sameIdentity_iff_of_resolves (recorded.sound left leftInside)
      (recorded.sound right rightInside)

end Heap

namespace Chronicle

variable {limit : Nat} {chronicle : Chronicle} {id : HeapId} {heap : Heap}
  {history : HeapHistory}

/-- All heaps came about as their histories tell. -/
def Recorded (limit : Nat) (chronicle : Chronicle) : Prop :=
  ∀ id, (chronicle.heaps.get id).Recorded limit (chronicle.history id)

theorem recorded_start (limit : Nat) : (start limit).Recorded limit := by
  intro id
  by_cases first : id = HeapStore.empty.next
  · rw [first, start, HeapStore.get_add_self]
    exact Heap.recorded_empty (Nat.le_refl limit)
  · rw [start, HeapStore.get_add_of_ne _ first]
    exact Heap.recorded_empty (Nat.zero_le limit)

theorem Recorded.write (recorded : chronicle.Recorded limit)
    (heapRecorded : heap.Recorded limit history) (id : HeapId) :
    (chronicle.write id heap history).Recorded limit := by
  intro other
  rw [Chronicle.write]
  by_cases same : other = id
  · simp only [HeapStore.get_set, if_pos same]
    exact heapRecorded
  · simp only [HeapStore.get_set, if_neg same]
    exact recorded other

/-- One operation, whichever it is. -/
theorem Recorded.step (recorded : chronicle.Recorded limit) (operation : HeapStep) :
    (chronicle.step operation).Recorded limit := by
  cases operation with
  | alloc id object =>
      simp only [Chronicle.step]
      split
      · exact recorded
      · next handle grown allocated =>
          exact recorded.write ((recorded id).alloc object.property allocated) id
  | replace id handle object =>
      simp only [Chronicle.step]
      split
      · exact recorded
      · next after replaced =>
          exact recorded.write ((recorded id).replace object.property replaced) id
  | forward id old new =>
      simp only [Chronicle.step]
      split
      · exact recorded
      · next after forwarded =>
          exact recorded.write ((recorded id).forward forwarded) id
  | fork id =>
      intro other
      simp only [Chronicle.step]
      by_cases copy : other = chronicle.heaps.next
      · rw [if_pos copy, copy, HeapStore.get_add_self]
        exact recorded id
      · rw [if_neg copy, HeapStore.get_add_of_ne _ copy]
        exact recorded other

theorem Recorded.run (recorded : chronicle.Recorded limit) (steps : List HeapStep) :
    (chronicle.run steps).Recorded limit := by
  induction steps generalizing chronicle with
  | nil => exact recorded
  | cons operation rest ih => exact ih (recorded.step operation)

/-- A heap that exists is edited by an operation, if it is changed at all. -/
theorem edits_step (operation : HeapStep) (exists_ : id < chronicle.heaps.next) :
    (chronicle.heaps.get id).Edits ((chronicle.step operation).heaps.get id) ∧
      id < (chronicle.step operation).heaps.next := by
  have edits_write {changed : HeapId} {after : Heap} (history : HeapHistory)
      (edit : (chronicle.heaps.get changed).Edit after) :
      (chronicle.heaps.get id).Edits ((chronicle.write changed after history).heaps.get id) ∧
        id < (chronicle.write changed after history).heaps.next := by
    refine ⟨?_, exists_⟩
    simp only [write, HeapStore.get_set]
    by_cases same : id = changed
    · rw [if_pos same, same]
      exact .single edit
    · rw [if_neg same]
  cases operation with
  | alloc changed object =>
      simp only [step]
      split
      · exact ⟨.refl, exists_⟩
      · next handle grown allocated => exact edits_write _ (.alloc object.property allocated)
  | replace changed handle object =>
      simp only [step]
      split
      · exact ⟨.refl, exists_⟩
      · next after replaced => exact edits_write _ (.replace object.property replaced)
  | forward changed old new =>
      simp only [step]
      split
      · exact ⟨.refl, exists_⟩
      · next after forwarded => exact edits_write _ (.forward forwarded)
  | fork source =>
      simp only [step]
      rw [HeapStore.get_add_of_ne _ (Nat.ne_of_lt exists_)]
      exact ⟨.refl, Nat.lt_succ_of_lt exists_⟩

theorem edits_run (steps : List HeapStep) (exists_ : id < chronicle.heaps.next) :
    (chronicle.heaps.get id).Edits ((chronicle.run steps).heaps.get id) := by
  induction steps generalizing chronicle with
  | nil => exact .refl
  | cons operation rest ih =>
      have first := edits_step operation exists_
      exact first.1.trans (ih first.2)

/-- Every heap that operations make of one without objects, or of copies of it, is a
union-find structure of at most `limit` slots.  From any point on such a heap only grows,
and it gives out no handle that it has given out before. -/
theorem unionFind_run (limit : Nat) (steps further : List HeapStep) :
    let middle := (start limit).run steps
    let last := middle.run further
    (∀ id, (middle.heaps.get id).UnionFind limit (middle.history id)) ∧
      ∀ id < middle.heaps.next,
        (middle.heaps.get id).size ≤ (last.heaps.get id).size ∧
          ∀ inst handle grown, (last.heaps.get id).alloc inst = .ok (handle, grown) →
            (middle.heaps.get id).size ≤ handle := by
  intro middle last
  constructor
  · intro id
    exact ((recorded_start limit).run steps id).unionFind
  · intro id exists_
    have grows := Heap.Edits.size_le (edits_run further exists_)
    refine ⟨grows, ?_⟩
    intro inst handle grown allocated
    rw [((last.heaps.get id).alloc_eq_ok.mp allocated).2.1]
    exact grows

end Chronicle

end Callsite
