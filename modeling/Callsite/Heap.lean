import Callsite.Error

/-!
# Heaps

A heap is an arena of slots that only grows, up to a capacity.  Registers hold
handles, never objects, so all registers with one handle see the same slot.  When
an object takes the place of another, the old slot forwards to the new one, and
every operation follows forwarding first: `resolve` is the only place that walks.
-/

namespace Callsite

/-- A heap. -/
structure Heap where
  slots : Array Instance := #[]
  /-- The number of slots that the heap can grow to. -/
  capacity : Nat
  deriving DecidableEq

namespace Heap

/-- The capacity of a heap when nothing else is said. -/
def defaultCapacity : Nat := 65536

/-- A heap without objects. -/
def empty (capacity : Nat) : Heap := { capacity }

/-- Follow forwarding for at most a number of steps.  A walk that uses them all
is blamed on the handle it started from. -/
def walk (slots : Array Instance) (start : Handle) : Nat → Handle → Except Error Handle
  | 0, _ => .error (.invalidReference start)
  | steps + 1, current =>
      match slots[current]? with
      | none => .error (.invalidReference current)
      | some (.forwarded next) => walk slots start steps next
      | some _ => .ok current

variable (heap : Heap)

/-- The number of slots, forwarding ones included. -/
def size : Nat := heap.slots.size

/-- The slot where the object of a handle lives.  A walk that ends visits no
slot twice, so as many steps as there are slots, and one to look at the last,
are enough. -/
def resolve (handle : Handle) : Except Error Handle :=
  walk heap.slots handle (heap.size + 1) handle

/-- The object of a handle. -/
def get (handle : Handle) : Except Error Instance :=
  match heap.resolve handle with
  | .error error => .error error
  | .ok slot =>
      match heap.slots[slot]? with
      | some inst => .ok inst
      | none => .error (.invalidReference slot)

/-- Write a slot. -/
def set (slot : Handle) (inst : Instance) : Heap :=
  { heap with slots := heap.slots.setIfInBounds slot inst }

/-- Put an object into a new slot. -/
def alloc (inst : Instance) : Except Error (Handle × Heap) :=
  if heap.capacity ≤ heap.size then
    .error (.heapLimit heap.capacity)
  else
    .ok (heap.size, { heap with slots := heap.slots.push inst })

/-- Overwrite the object of a handle. -/
def replace (handle : Handle) (inst : Instance) : Except Error Heap :=
  match heap.resolve handle with
  | .error error => .error error
  | .ok slot => .ok (heap.set slot inst)

/-- Make every handle of one object a handle of another.  Nothing changes if
they are the same object already. -/
def forward (old new : Handle) : Except Error Heap :=
  match heap.resolve old with
  | .error error => .error error
  | .ok source =>
      match heap.resolve new with
      | .error error => .error error
      | .ok target =>
          .ok (if source = target then heap else heap.set source (.forwarded target))

/-- Whether two handles are of the same object. -/
def sameIdentity (left right : Handle) : Bool :=
  match heap.resolve left, heap.resolve right with
  | .ok left, .ok right => left == right
  | _, _ => false

/-- The runtime type of the object of a handle. -/
def typeOf (handle : Handle) : Except Error TypeName :=
  match heap.get handle with
  | .error error => .error error
  | .ok inst =>
      match inst.type? with
      | some type => .ok type
      | none => .error (.invalidReference handle)

/-- The content of a string, nothing if the object is no string. -/
def stringOf (handle : Handle) : Except Error (Option String) :=
  match heap.get handle with
  | .error error => .error error
  | .ok (.string text) => .ok (some text)
  | .ok _ => .ok none

/-- Whether one value stands for another object than the other does, or for
another value if one of the two is no reference. -/
def isReplaced (before after : TypedValue) : Bool :=
  match before.handle?, after.handle? with
  | some left, some right => !heap.sameIdentity left right
  | _, _ => before.value != after.value

@[simp] theorem size_empty (capacity : Nat) : (empty capacity).size = 0 := rfl

@[simp] theorem size_set (slot : Handle) (inst : Instance) :
    (heap.set slot inst).size = heap.size := by
  simp [set, size]

@[simp] theorem capacity_set (slot : Handle) (inst : Instance) :
    (heap.set slot inst).capacity = heap.capacity := rfl

theorem alloc_eq_ok {inst : Instance} {handle : Handle} {grown : Heap} :
    heap.alloc inst = .ok (handle, grown) ↔
      heap.size < heap.capacity ∧ handle = heap.size ∧
        grown = { heap with slots := heap.slots.push inst } := by
  unfold alloc
  split
  · next full =>
      constructor
      · intro impossible
        cases impossible
      · intro ⟨room, _⟩
        omega
  · next room =>
      constructor
      · intro same
        cases same
        exact ⟨by omega, rfl, rfl⟩
      · rintro ⟨_, rfl, rfl⟩
        rfl

/-- What a walk ends at is a slot that does not forward. -/
theorem isLive_of_walk {slots : Array Instance} {start current slot : Handle}
    {steps : Nat} (walked : walk slots start steps current = .ok slot) :
    ∃ inst, slots[slot]? = some inst ∧ inst.isLive = true := by
  induction steps generalizing current with
  | zero => cases walked
  | succ steps ih =>
      simp only [walk] at walked
      split at walked
      · cases walked
      · exact ih walked
      · next inst notForwarded found =>
          cases walked
          exact ⟨inst, found, Instance.isLive_iff.mpr notForwarded⟩

theorem isLive_of_resolve {handle slot : Handle}
    (resolved : heap.resolve handle = .ok slot) :
    ∃ inst, heap.slots[slot]? = some inst ∧ inst.isLive = true :=
  isLive_of_walk resolved

theorem resolve_lt_size {handle slot : Handle}
    (resolved : heap.resolve handle = .ok slot) : slot < heap.size := by
  obtain ⟨inst, found, _⟩ := heap.isLive_of_resolve resolved
  exact (Array.getElem?_eq_some_iff.mp found).1

/-- The object of a handle is what its slot holds, and it never is a
forwarding. -/
theorem get_eq_ok {handle : Handle} {inst : Instance} :
    heap.get handle = .ok inst ↔
      ∃ slot, heap.resolve handle = .ok slot ∧ heap.slots[slot]? = some inst := by
  rw [get]
  split
  · next error failed => simp [failed]
  · next slot resolved =>
      split
      · next found there => simp [resolved, there]
      · next missing =>
          obtain ⟨inst, found, _⟩ := heap.isLive_of_resolve resolved
          rw [missing] at found
          cases found

end Heap

end Callsite
