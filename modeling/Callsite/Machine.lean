import Callsite.ClassDef
import Callsite.Emulation.JavaLang
import Callsite.Graph
import Callsite.Policy

/-!
# Machines

A machine is a policy together with the collaborators that do the work: the
emulator, the reflector, the instantiator and the interpreter.  Executing the
body of a method is bounded here, by the number of calls that lead to it.
-/

namespace Callsite

/-- Runs a method for real on the arguments in a frame, reading and creating
objects in a heap. -/
abbrev Reflector (σ : Type) :=
  Method → Frame → Heap → StateM σ (Except ReflectionError Unit × Frame × Heap)

/-- Creates an instance of a class. -/
abbrev Instantiator (σ : Type) := ClassDef → StateM σ (Except Error Instance)

/-- Finds the paths through the body of a method, starting from an activation.
No graph means that it gave up. -/
abbrev Interpreter (σ : Type) :=
  Method → Activation → AnalysisM σ (Except ExecutionError (Option Graph))

namespace JavaLang

/-- The reflector of the methods that can be reflected from the start. -/
def reflector (σ : Type) : Reflector σ := fun method frame heap => do
  let (result, call) := ReflectedM.reflect.perform { method, frame, heap }
  return (result, call.frame, call.heap)

end JavaLang

namespace ClassDef

/-- A new instance of a class.  Strings and character buffers are empty. -/
def instantiate (definition : ClassDef) : Except Error Instance :=
  if definition.isAbstract then
    .error (.instantiation (definition.name ++ " is abstract or an interface"))
  else if definition.name = TypeName.string then
    .ok (.string "")
  else if definition.name = TypeName.stringBuilder then
    .ok (.builder "")
  else
    .ok (.object definition.name)

end ClassDef

/-- The instantiator of all classes that can have instances. -/
def Instantiator.standard (σ : Type) : Instantiator σ := fun definition =>
  return definition.instantiate

/-- The interpreter that never runs anything. -/
def Interpreter.absent (σ : Type) : Interpreter σ := fun method _ => do
  AnalysisM.remark (.noInterpreter method.signature)
  return .ok none

/-- A policy and the collaborators that act under it. -/
structure Machine (σ : Type) where
  policy : Policy := {}
  emulator : Emulator σ := JavaLang.emulator σ
  reflector : Reflector σ := JavaLang.reflector σ
  instantiator : Instantiator σ := Instantiator.standard σ
  interpreter : Interpreter σ := Interpreter.absent σ

namespace Machine

variable {σ : Type} (machine : Machine σ)

/-- A new heap of the capacity that the policy allows. -/
def newHeap : AnalysisM σ HeapId :=
  AnalysisM.addHeap (Heap.empty machine.policy.limits.heapInstances)

/-- A new instance of the class of a name. -/
def newInstance (type : TypeName) : AnalysisM σ (Except Error Instance) := do
  match (← AnalysisM.catalog).resolve type with
  | .error cause => return .error cause
  | .ok definition => AnalysisM.lift (machine.instantiator definition)

/-- An activation for the body of a method that another activation calls.  The
two share a heap. -/
def spawn (method : Method) (caller : Activation) (address : Nat) : Activation :=
  { method
    frame := Frame.forMethod method
    heap := caller.heap : Activation }.calledBy caller address

/-- An activation for the body of a method that nothing calls, with a heap of
its own. -/
def spawnRoot (method : Method) : AnalysisM σ Activation := do
  let heap ← machine.newHeap
  return { method, frame := Frame.forMethod method, heap }

/-- Execute the body of a method, unless too many calls lead to it. -/
def execute (signature : String) (callee : Activation) (caller : Option Activation)
    (address : Nat) : AnalysisM σ (Except ExecutionError (Option Graph)) :=
  if machine.policy.limits.callDepth < callee.depth then do
    AnalysisM.remark
      (.depthExceeded callee.depth machine.policy.limits.callDepth signature
        (caller.map fun caller => caller.method.signature) address)
    return .ok none
  else
    machine.interpreter callee.method callee

@[simp] theorem depth_spawn (method : Method) (caller : Activation) (address : Nat) :
    (spawn method caller address).depth = caller.depth + 1 :=
  Activation.depth_calledBy _ caller address

@[simp] theorem heap_spawn (method : Method) (caller : Activation) (address : Nat) :
    (spawn method caller address).heap = caller.heap := rfl

@[simp] theorem method_spawn (method : Method) (caller : Activation) (address : Nat) :
    (spawn method caller address).method = method := rfl

end Machine

end Callsite
