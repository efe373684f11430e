import Callsite.Invoke.Kind
import Callsite.Method

/-!
# Call sites

A call site is an invoke instruction at an address, with the method that it
declares to call and one register for each of its parameters.  A wide parameter
takes two registers in the instruction, of which the first one counts.
-/

namespace Callsite

/-- An invoke instruction. -/
structure InvokeOp where
  address : Nat
  kind : InvokeKind
  method : Method
  /-- The caller's register of each parameter, the receiver first. -/
  registers : List Nat
  length_registers : registers.length = method.parameterTypes.length

namespace InvokeOp

/-- The greatest index of a register. -/
def maxRegister : Nat := 65535

/-- The call site with one register for each parameter. -/
def ofRegisters (address : Nat) (kind : InvokeKind) (method : Method)
    (registers : List Nat) : Except Error InvokeOp :=
  if length_registers : registers.length = method.parameterTypes.length then
    .ok { address, kind, method, registers, length_registers }
  else
    .error (.malformed (.parameterCount method.signature method.parameterTypes.length
      registers.length))

/-- The first register of each parameter, from the registers that all parameters
take. -/
def firstRegisters (method : Method) (operands : List Nat) : List Nat :=
  method.offsets.filterMap fun placed => operands[placed.1]?

/-- The call site with all registers of the instruction, two for each wide
parameter. -/
def ofOperands (address : Nat) (kind : InvokeKind) (method : Method)
    (operands : List Nat) : Except Error InvokeOp :=
  if operands.length = method.parameterSize then
    ofRegisters address kind method (firstRegisters method operands)
  else
    .error (.malformed (.registerCount method.signature method.parameterSize
      operands.length))

/-- The call site with a range of registers. -/
def ofRange (address : Nat) (kind : InvokeKind) (method : Method)
    (first count : Nat) : Except Error InvokeOp :=
  if first + count ≤ maxRegister then
    ofOperands address kind method (List.range' first count)
  else
    .error (.malformed (.registerRange first count))

variable (op : InvokeOp)

/-- The caller's register of the receiver, or of the first parameter of a static
method. -/
def firstRegister? : Option Nat := op.registers.head?

/-- The registers between the braces. -/
def operandText : String :=
  let name := fun number => "r" ++ Decimal.ofNat number
  if op.kind.isRange then
    match op.registers.head?, op.registers.getLast? with
    | some first, some last => name first ++ " .. " ++ name last
    | _, _ => ""
  else
    String.intercalate ", " (op.registers.map name)

/-- The text of an instruction. -/
def text : String :=
  op.kind.text ++ " \x7b" ++ op.operandText ++ "\x7d, " ++ op.method.signature

/-- The call site that has the given registers, one for each parameter. -/
theorem ofRegisters_eq_ok {address : Nat} {kind : InvokeKind} {method : Method}
    {registers : List Nat} {op : InvokeOp} :
    ofRegisters address kind method registers = .ok op ↔
      op.address = address ∧ op.kind = kind ∧ op.method = method ∧
        op.registers = registers := by
  unfold ofRegisters
  constructor
  · intro built
    split at built
    · cases built
      exact ⟨rfl, rfl, rfl, rfl⟩
    · cases built
  · rintro ⟨rfl, rfl, rfl, rfl⟩
    rw [dif_pos op.length_registers]

end InvokeOp

end Callsite
