import Callsite.Heap
import Callsite.Reflection.JavaLang

/-!
# Policies

A policy says which methods may be run for real, which types count as immutable
on top of the ones that always do, and how far nested execution may go.
-/

namespace Callsite

/-- How far nested execution may go. -/
structure Limits where
  /-- The number of calls that may lead to an execution. -/
  callDepth : Nat := 20
  /-- The instructions that an interpreter may visit in one method. -/
  methodVisits : Nat := 1000000
  /-- The times that an interpreter may visit one address. -/
  addressVisits : Nat := 500
  /-- The capacity of new heaps. -/
  heapInstances : Nat := Heap.defaultCapacity
  deriving DecidableEq

namespace Limits

/-- Small limits for quick passes. -/
def strict : Limits :=
  { callDepth := 5
    methodVisits := 100000
    addressVisits := 100
    heapInstances := 4096 }

/-- Large limits for whole programs. -/
def permissive : Limits :=
  { callDepth := 50
    methodVisits := 10000000
    addressVisits := 10000
    heapInstances := 1000000 }

end Limits

/-- What may be run, what cannot change, and how far execution may go. -/
structure Policy where
  limits : Limits := {}
  /-- Classes of which every method may be run. -/
  safeClasses : List TypeName := []
  /-- Methods that may be run; at first those that can be reflected. -/
  safeMethods : List String := JavaLang.Reflected.all.map JavaLang.Reflected.signature
  /-- Methods that may not be run, whatever else is said. -/
  unsafeMethods : List String := []
  /-- Further types whose instances cannot change. -/
  immutableClasses : List TypeName := []
  deriving DecidableEq

namespace Policy

/-- The standard policy with small limits. -/
def strict : Policy := { limits := Limits.strict }

/-- The standard policy with large limits. -/
def permissive : Policy := { limits := Limits.permissive }

variable (policy : Policy)

/-- Allow every method of a class to be run. -/
def allowClass (name : TypeName) : Policy :=
  { policy with safeClasses := policy.safeClasses.insert name }

/-- Allow a method to be run. -/
def allowMethod (signature : String) : Policy :=
  { policy with safeMethods := policy.safeMethods.insert signature }

/-- Forbid a method to be run. -/
def forbidMethod (signature : String) : Policy :=
  { policy with unsafeMethods := policy.unsafeMethods.insert signature }

/-- Count instances of a type as immutable. -/
def freezeClass (name : TypeName) : Policy :=
  { policy with immutableClasses := policy.immutableClasses.insert name }

/-- Whether a method may be run. -/
def isSafe (signature : String) : Bool :=
  !policy.unsafeMethods.contains signature &&
    (policy.safeMethods.contains signature ||
      policy.safeClasses.contains (Signature.classPart signature))

/-- Whether values of a type cannot be changed by a call. -/
def isImmutable (type : TypeName) : Bool :=
  type.isImmutable || policy.immutableClasses.contains type

end Policy

end Callsite
