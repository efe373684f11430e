import Callsite.AccessFlags
import Callsite.Error
import Callsite.Signature

/-!
# Methods

A method is what its signature says, with its modifiers and, if it can be
interpreted, the size of its body's register file.  Parameters lie one after
another at the end of that file, a wide one taking two registers; `offsets` gives
the place of each.
-/

namespace Callsite

-- Sums start from the zero of the core library, also where another library adds its own.
attribute [local instance (high)] Zero.ofOfNat0

/-- A method. -/
structure Method where
  signature : String
  className : TypeName
  name : String
  /-- The signature without its class. -/
  descriptor : String
  /-- The types between the parentheses. -/
  declaredTypes : List TypeName
  returnType : TypeName
  flags : AccessFlags
  /-- The number of registers that the body asks for, if there is a body. -/
  body : Option Nat := none
  deriving DecidableEq, Inhabited

namespace Method

/-- The names that mark a method as a constructor. -/
def constructorNames : List String := ["<init>", "<clinit>"]

/-- The modifiers of a method by its name: constructors carry a modifier of
their own. -/
def flagsFor (name : String) (flags : AccessFlags) : AccessFlags :=
  if constructorNames.contains name then
    flags.union AccessFlags.isConstructor
  else
    flags

/-- The method without a body that a signature names. -/
def parse (signature : String) (flags : AccessFlags) : Except Error Method :=
  match Text.cut? Signature.arrow signature.toList with
  | none => .error (.malformed (.signatureWithoutArrow signature))
  | some (className, descriptor) =>
    match Text.cut? ['('] descriptor with
    | none => .error (.malformed (.signatureWithoutOpening signature))
    | some (name, afterName) =>
      match Text.cut? [')'] afterName with
      | none => .error (.malformed (.signatureWithoutClosing signature))
      | some (parameters, returnType) =>
        if ¬ (TypeName.isReference (String.ofList className)) ∨ returnType = [] then
          .error (.malformed (.signatureEnds signature))
        else
          match Signature.parameters? parameters with
          | none => .error (.malformed (.parameterList signature))
          | some declaredTypes =>
            .ok {
              signature
              className := String.ofList className
              name := String.ofList name
              descriptor := String.ofList descriptor
              declaredTypes
              returnType := String.ofList returnType
              flags := flagsFor (String.ofList name) flags }

variable (method : Method)

/-- The method with a body that asks for a number of registers. -/
def withBody (registers : Nat) : Method :=
  { method with body := some registers }

/-- Whether the method is called without a receiver. -/
def isStatic : Bool := method.flags.contains AccessFlags.isStatic

/-- Whether the method cannot be overridden. -/
def isFinal : Bool := method.flags.contains AccessFlags.isFinal

/-- Whether the method is implemented outside the bytecode. -/
def isNative : Bool := method.flags.contains AccessFlags.isNative

/-- Whether the method must be overridden. -/
def isAbstract : Bool := method.flags.contains AccessFlags.isAbstract

/-- Whether the method initializes instances. -/
def isConstructor : Bool :=
  method.flags.contains AccessFlags.isConstructor && method.name == "<init>"

/-- Whether the method has no result. -/
def returnsVoid : Bool := method.returnType == TypeName.void

/-- Whether there is a body that can be interpreted. -/
def hasImplementation : Bool :=
  method.body.isSome && !method.isNative && !method.isAbstract

/-- The types of all parameters.  The receiver comes first, unless the method
is static. -/
def parameterTypes : List TypeName :=
  if method.isStatic then method.declaredTypes
  else method.className :: method.declaredTypes

/-- The number of registers that values of the given types take together. -/
def totalSize (types : List TypeName) : Nat :=
  (types.map TypeName.registerSize).sum

/-- The number of registers that the parameters take. -/
def parameterSize : Nat := totalSize method.parameterTypes

/-- The size of the register file: what the body asks for, but never less than
the parameters take. -/
def registerCount : Nat :=
  match method.body with
  | none => method.parameterSize
  | some registers => max registers method.parameterSize

/-- Values of the given types placed one after another from an offset. -/
def place (offset : Nat) : List TypeName → List (Nat × TypeName)
  | [] => []
  | type :: rest => (offset, type) :: place (offset + type.registerSize) rest

/-- The offset of each parameter from the first parameter register, and its
type. -/
def offsets : List (Nat × TypeName) := place 0 method.parameterTypes

/-- The type of the parameter that starts at a register, when the parameters
start at `start`. -/
def typeAt? (start register : Nat) : Option TypeName :=
  ((place start method.parameterTypes).find? fun placed => placed.1 == register).map
    Prod.snd

@[simp] theorem totalSize_nil : totalSize [] = 0 := rfl

@[simp] theorem totalSize_cons (type : TypeName) (types : List TypeName) :
    totalSize (type :: types) = type.registerSize + totalSize types := by
  simp [totalSize]

@[simp] theorem length_place (offset : Nat) (types : List TypeName) :
    (place offset types).length = types.length := by
  induction types generalizing offset with
  | nil => rfl
  | cons type rest ih => simp [place, ih]

@[simp] theorem map_snd_place (offset : Nat) (types : List TypeName) :
    (place offset types).map Prod.snd = types := by
  induction types generalizing offset with
  | nil => rfl
  | cons type rest ih => simp [place, ih]

@[simp] theorem length_offsets :
    method.offsets.length = method.parameterTypes.length :=
  length_place 0 method.parameterTypes

theorem parameterSize_le_registerCount :
    method.parameterSize ≤ method.registerCount := by
  unfold registerCount
  split
  · exact Nat.le_refl _
  · exact Nat.le_max_right _ _

@[simp] theorem registerCount_withBody (registers : Nat) :
    (method.withBody registers).registerCount =
      max registers method.parameterSize := rfl

end Method

end Callsite
