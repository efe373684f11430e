import Callsite.Heap

/-!
# The store of heaps

Activations refer to their heap by a number, so that a caller and the methods it
calls see each other's objects.  A fork is a copy under a new number.  The store
is read through `get` alone: a number that was never given out has an empty heap
without capacity.
-/

namespace Callsite

/-- The number of a heap in the store. -/
abbrev HeapId := Nat

/-- Heaps by number. -/
structure HeapStore where
  entries : List (HeapId × Heap) := []
  /-- The next number to give out. -/
  next : HeapId := 0
  deriving DecidableEq

namespace HeapStore

/-- A store without heaps. -/
def empty : HeapStore := {}

instance : Inhabited HeapStore := ⟨empty⟩

variable (store : HeapStore)

/-- The heap of a number. -/
def get (id : HeapId) : Heap :=
  (store.entries.lookup id).getD (Heap.empty 0)

/-- Replace the heap of a number. -/
def set (id : HeapId) (heap : Heap) : HeapStore :=
  { store with
    entries := (id, heap) :: store.entries.filter fun entry => entry.1 != id }

/-- Put a heap under a new number. -/
def add (heap : Heap) : HeapId × HeapStore :=
  (store.next, { (store.set store.next heap) with next := store.next + 1 })

theorem lookup_filter_ne {id other : HeapId} (different : other ≠ id)
    (entries : List (HeapId × Heap)) :
    (entries.filter fun entry => entry.1 != id).lookup other =
      entries.lookup other := by
  induction entries with
  | nil => rfl
  | cons entry rest ih =>
      obtain ⟨key, heap⟩ := entry
      by_cases same : key = id
      · subst same
        simp [List.lookup_cons, beq_false_of_ne different, ih]
      · simp [List.lookup_cons, same, ih]

theorem get_set (id other : HeapId) (heap : Heap) :
    (store.set id heap).get other = if other = id then heap else store.get other := by
  by_cases same : other = id
  · subst same
    simp [get, set]
  · simp [get, set, List.lookup_cons, beq_false_of_ne same, lookup_filter_ne same, same]

@[simp] theorem get_set_self (id : HeapId) (heap : Heap) :
    (store.set id heap).get id = heap := by
  simp [get_set]

theorem get_set_of_ne {id other : HeapId} (different : other ≠ id) (heap : Heap) :
    (store.set id heap).get other = store.get other := by
  simp [get_set, different]

/-- Putting a heap back where it comes from cannot be seen. -/
theorem get_set_get (id other : HeapId) :
    (store.set id (store.get id)).get other = store.get other := by
  rw [get_set]
  split
  · next same => rw [same]
  · rfl

@[simp] theorem fst_add (heap : Heap) : (store.add heap).1 = store.next := rfl

@[simp] theorem get_add_self (heap : Heap) :
    (store.add heap).2.get store.next = heap :=
  store.get_set_self store.next heap

theorem get_add_of_ne {other : HeapId} (different : other ≠ store.next)
    (heap : Heap) : (store.add heap).2.get other = store.get other :=
  store.get_set_of_ne different heap

end HeapStore

end Callsite
