import Callsite.Heap
import Callsite.Method
import Callsite.Register

/-!
# Frames

A frame is the register file of one call.  Its last registers hold the
parameters.  A register that was never written reads as an unknown object.
Reads and writes are recorded unless they are silent (`peek` and `poke`); a write
to a register that the frame does not have is ignored and not recorded.
-/

namespace Callsite

/-- The register file of a call. -/
structure Frame where
  registers : Array (Option TypedValue) := #[]
  result : Option TypedValue := none
  returned : Option TypedValue := none
  /-- The first parameter register. -/
  parameterStart : Nat := 0
  /-- The registers that were written. -/
  assigned : RegisterSet := ∅
  /-- The registers that were read. -/
  read : RegisterSet := ∅
  deriving DecidableEq

namespace Frame

/-- A frame of a number of registers, the last of which are parameters. -/
def blank (count parameters : Nat) : Frame :=
  { registers := Array.replicate count none
    parameterStart := count - parameters }

/-- A frame for the body of a method. -/
def forMethod (method : Method) : Frame :=
  blank method.registerCount method.parameterSize

/-- A frame for nothing but the parameters of a method. -/
def forParameters (method : Method) : Frame :=
  blank method.parameterSize method.parameterSize

variable (frame : Frame)

/-- The number of numbered registers. -/
def registerCount : Nat := frame.registers.size

/-- The number of parameter registers. -/
def parameterSize : Nat := frame.registerCount - frame.parameterStart

/-- Whether the frame has a register. -/
def has : Register → Bool
  | .index number => decide (number < frame.registerCount)
  | .result => true
  | .returned => true

/-- What was written to a register. -/
def get? : Register → Option TypedValue
  | .index number => frame.registers[number]?.join
  | .result => frame.result
  | .returned => frame.returned

/-- What a register holds. -/
def peek (register : Register) : TypedValue :=
  (frame.get? register).getD (TypedValue.unknown TypeName.object)

/-- What the parameter at an offset holds. -/
def peekParameter (offset : Nat) : TypedValue :=
  frame.peek (.index (frame.parameterStart + offset))

/-- Record that a register was read. -/
def recordRead (register : Register) : Frame :=
  { frame with read := frame.read.insert register }

/-- Write a register silently. -/
def poke (register : Register) (item : TypedValue) : Frame :=
  match register with
  | .index number =>
      { frame with registers := frame.registers.setIfInBounds number (some item) }
  | .result => { frame with result := some item }
  | .returned => { frame with returned := some item }

/-- Write a register. -/
def assign (register : Register) (item : TypedValue) : Frame :=
  if frame.has register then
    { frame.poke register item with assigned := frame.assigned.insert register }
  else
    frame

/-- Write the parameter at an offset. -/
def assignParameter (offset : Nat) (item : TypedValue) : Frame :=
  frame.assign (.index (frame.parameterStart + offset)) item

/-- Write several registers one after another. -/
def assignAll (registers : List Register) (item : TypedValue) : Frame :=
  registers.foldl (fun frame register => frame.assign register item) frame

/-- The numbered registers and the result slot, in this order, that hold a
handle. -/
def holders (handle : Handle) : List Register :=
  ((List.range frame.registerCount).map Register.index ++ [Register.result]).filter
    fun register => (frame.get? register).bind TypedValue.handle? == some handle

/-- Write a register that held an object, for every register that held it.  A
new object takes the place of the old one in the heap too. -/
def assignIdentity (heap : Heap) (number : Nat) (item : TypedValue) :
    Except Error (Frame × Heap) :=
  let previous := frame.peek (.index number)
  match previous.handle? with
  | none => .ok (frame.assign (.index number) item, heap)
  | some old =>
      if previous = item then
        .ok (frame.assign (.index number) item, heap)
      else
        let merged : Except Error Heap :=
          match item.handle? with
          | some new => if new = old then .ok heap else heap.forward old new
          | none => .ok heap
        match merged with
        | .error error => .error error
        | .ok heap =>
            .ok ((frame.assignAll (frame.holders old) item).assign (.index number) item,
              heap)

/-- Put a new object into the heap and in the place of the one that a register
holds.  The heap keeps the object even if the register's old one is lost. -/
def placeInstance (heap : Heap) (number : Nat) (type : TypeName) (inst : Instance) :
    Except Error Frame × Heap :=
  match heap.alloc inst with
  | .error cause => (.error cause, heap)
  | .ok (created, grown) =>
      match frame.assignIdentity grown number (TypedValue.reference created type) with
      | .error cause => (.error cause, grown)
      | .ok (frame, heap) => (.ok frame, heap)

/-- The runtime type of what a register holds: the type of the object, if it
refers to one, and else the static type. -/
def runtimeType (heap : Heap) (number : Nat) : TypeName :=
  let item := frame.peek (.index number)
  let static := if item.isNull then TypeName.object else item.type
  match item.handle? with
  | none => static
  | some handle =>
      match heap.typeOf handle with
      | .ok type => type
      | .error _ => static

@[simp] theorem registerCount_blank (count parameters : Nat) :
    (blank count parameters).registerCount = count := by
  simp [blank, registerCount]

@[simp] theorem get?_blank (count parameters : Nat) (register : Register) :
    (blank count parameters).get? register = none := by
  cases register with
  | index number =>
      simp only [blank, get?, Array.getElem?_replicate]
      split <;> rfl
  | result => rfl
  | returned => rfl

@[simp] theorem get?_recordRead (register other : Register) :
    (frame.recordRead register).get? other = frame.get? other := by
  cases other <;> rfl

theorem get?_poke (register other : Register) (item : TypedValue) :
    (frame.poke register item).get? other =
      if register = other ∧ frame.has register = true then some item
      else frame.get? other := by
  cases register <;> cases other <;>
    simp [poke, get?, has, registerCount, Array.getElem?_setIfInBounds]
  next number other =>
    by_cases same : number = other
    · subst same
      by_cases inside : number < frame.registers.size
      · simp [inside]
      · simp [inside]
    · simp [same]

@[simp] theorem registerCount_poke (register : Register) (item : TypedValue) :
    (frame.poke register item).registerCount = frame.registerCount := by
  cases register <;> simp [poke, registerCount]

@[simp] theorem has_poke (register other : Register) (item : TypedValue) :
    (frame.poke register item).has other = frame.has other := by
  cases other with
  | index number =>
      rw [has, has]
      rw [registerCount_poke]
  | result => rfl
  | returned => rfl

@[simp] theorem has_assign (register other : Register) (item : TypedValue) :
    (frame.assign register item).has other = frame.has other := by
  rw [assign]
  split
  · cases other with
    | index number => exact frame.has_poke register (.index number) item
    | result => rfl
    | returned => rfl
  · rfl

theorem get?_assign (register other : Register) (item : TypedValue) :
    (frame.assign register item).get? other =
      if register = other ∧ frame.has register = true then some item
      else frame.get? other := by
  rw [assign]
  split
  · next present =>
      rw [← frame.get?_poke]
      cases other <;> rfl
  · next absent =>
      simp [absent]

theorem mem_assigned_assign {register other : Register} {item : TypedValue} :
    other ∈ (frame.assign register item).assigned ↔
      other = register ∧ frame.has register = true ∨ other ∈ frame.assigned := by
  rw [assign]
  split
  · next present => simp [present]
  · next absent => simp [absent]

@[simp] theorem read_assign (register : Register) (item : TypedValue) :
    (frame.assign register item).read = frame.read := by
  rw [assign]
  split
  · cases register <;> rfl
  · rfl

end Frame

end Callsite
