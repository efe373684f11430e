/-!
# Access flags

The modifiers of classes and methods, one bit each.  Bits without a meaning here
are kept as they are.
-/

namespace Callsite

/-- A set of modifiers. -/
structure AccessFlags where
  bits : UInt32
  deriving DecidableEq, Inhabited

namespace AccessFlags

/-- Visible everywhere. -/
def isPublic : AccessFlags := ⟨0x1⟩

/-- Called without a receiver. -/
def isStatic : AccessFlags := ⟨0x8⟩

/-- Not to be overridden. -/
def isFinal : AccessFlags := ⟨0x10⟩

/-- Implemented outside the bytecode. -/
def isNative : AccessFlags := ⟨0x100⟩

/-- An interface. -/
def isInterface : AccessFlags := ⟨0x200⟩

/-- Without an implementation of its own. -/
def isAbstract : AccessFlags := ⟨0x400⟩

/-- An initializer of instances or of the class. -/
def isConstructor : AccessFlags := ⟨0x10000⟩

/-- Whether a set contains all modifiers of another. -/
def contains (flags modifiers : AccessFlags) : Bool :=
  flags.bits &&& modifiers.bits == modifiers.bits

/-- The modifiers of both sets. -/
def union (left right : AccessFlags) : AccessFlags :=
  ⟨left.bits ||| right.bits⟩

theorem contains_union_right (left right : AccessFlags) :
    (left.union right).contains right = true := by
  simp only [contains, union, beq_iff_eq]
  apply UInt32.toBitVec_inj.mp
  simp only [UInt32.toBitVec_and, UInt32.toBitVec_or]
  ext index bound
  simp only [BitVec.getElem_and, BitVec.getElem_or]
  cases left.bits.toBitVec[index] <;> cases right.bits.toBitVec[index] <;> rfl

/-- Adding the constructor bit leaves every other named modifier as it was. -/
theorem contains_isStatic_union_isConstructor (flags : AccessFlags) :
    (flags.union isConstructor).contains isStatic = flags.contains isStatic := by
  have mask : isConstructor.bits &&& isStatic.bits = 0 := by decide
  simp only [contains, union]
  have distribute : (flags.bits ||| isConstructor.bits) &&& isStatic.bits =
      (flags.bits &&& isStatic.bits) ||| (isConstructor.bits &&& isStatic.bits) := by
    apply UInt32.toBitVec_inj.mp
    simp only [UInt32.toBitVec_and, UInt32.toBitVec_or]
    ext index bound
    simp only [BitVec.getElem_and, BitVec.getElem_or]
    cases flags.bits.toBitVec[index] <;> cases isConstructor.bits.toBitVec[index] <;>
      cases isStatic.bits.toBitVec[index] <;> rfl
  rw [distribute, mask]
  simp

end AccessFlags

end Callsite
