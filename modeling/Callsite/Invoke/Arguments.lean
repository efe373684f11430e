import Callsite.Machine

/-!
# Arguments

Before a call every argument is given a type, and then it is passed to the
parameter region of the callee's frame, a wide argument taking two registers.  A
zero `int` stands for `null` where an object is expected; any other known
primitive is cast to the parameter's type.
-/

namespace Callsite

namespace Frame

/-- Record that several numbered registers were read. -/
def recordReads (frame : Frame) (numbers : List Nat) : Frame :=
  numbers.foldl (fun frame number => frame.recordRead (.index number)) frame

@[simp] theorem get?_recordReads (frame : Frame) (numbers : List Nat)
    (register : Register) :
    (frame.recordReads numbers).get? register = frame.get? register := by
  induction numbers generalizing frame with
  | nil => rfl
  | cons number rest ih =>
      exact (ih (frame.recordRead (.index number))).trans
        (frame.get?_recordRead (.index number) register)

@[simp] theorem assigned_recordReads (frame : Frame) (numbers : List Nat) :
    (frame.recordReads numbers).assigned = frame.assigned := by
  induction numbers generalizing frame with
  | nil => rfl
  | cons number rest ih => exact ih (frame.recordRead (.index number))

end Frame

namespace TypedValue

/-- The value to pass for a parameter of a type. -/
def marshal (item : TypedValue) (type : TypeName) : TypedValue :=
  if item.isPrimitive && !item.isUnknown then
    if item.type = TypeName.int ∧ item.value.integer? = some 0 ∧ type.isReference then
      ⟨.null, type⟩
    else
      item.cast type
  else
    item.retyped type

@[simp] theorem type_marshal (item : TypedValue) (type : TypeName) :
    (item.marshal type).type = type := by
  rw [marshal]
  split
  · split <;> rfl
  · rfl

end TypedValue

namespace Arguments

variable {σ : Type}

/-- The type that each argument is passed as. -/
def reconcile (caller : Frame) (registers : List Nat) (declared : List TypeName) :
    AnalysisM σ (List TypeName) :=
  (declared.zip registers).mapM fun (type, number) =>
    AnalysisM.reconcile (caller.peek (.index number)) type

/-- Pass the arguments in the caller's registers as values of the given
types. -/
def pass (caller : Frame) (registers : List Nat) (types : List TypeName)
    (callee : Frame) : Frame :=
  (registers.zip (Method.place 0 types)).foldl
    (fun callee (number, offset, type) =>
      callee.assignParameter offset ((caller.peek (.index number)).marshal type))
    callee

/-- Whether every parameter of a method holds a known value. -/
def allKnown (method : Method) (frame : Frame) : Bool :=
  method.offsets.all fun (offset, _) => !(frame.peekParameter offset).isUnknown

end Arguments

end Callsite
