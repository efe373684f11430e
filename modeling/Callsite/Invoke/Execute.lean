import Callsite.Invoke.Arguments
import Callsite.Invoke.Construct
import Callsite.Invoke.GiveUp
import Callsite.Invoke.Return
import Callsite.Invoke.Target

/-!
# Executing a call site

A call site is executed against the node that its path has reached.  The
constructor of the root class completes a new object.  For any other method the
arguments are given types, the target is found, and the target is emulated,
reflected, interpreted or given up on.
-/

namespace Callsite.InvokeOp

variable {σ : Type} (machine : Machine σ) (op : InvokeOp)

/-- Widen the caller's frame after a call that did not run. -/
def giveUp (types : List TypeName) (node : Node) : AnalysisM σ Node := do
  let (widened, remarks) := GiveUp.widen machine.policy op types node.frame
  AnalysisM.remarkAll remarks
  return node.withFrame widened

/-- Give up on a call whose target must not or cannot be executed. -/
def decline (types : List TypeName) (remark : Remark) (reason : GiveUpReason)
    (node : Node) : AnalysisM σ (SideEffect × Outcome × Node) := do
  AnalysisM.remark remark
  let node ← op.giveUp machine types node
  return (.strong, .assumedUnknown reason, node)

/-- Give up on a call whose execution failed. -/
def abandon (types : List TypeName) (remark : Remark) (cause : ExecutionError)
    (node : Node) : AnalysisM σ (SideEffect × Outcome × Node) := do
  AnalysisM.remark remark
  let node ← op.giveUp machine types node
  return (.strong, .indeterminate cause, node)

/-- A frame with nothing but the arguments, in an activation of the declared
method. -/
def calleeOf (types : List TypeName) (caller : Activation) : Activation :=
  { method := op.method
    frame := Arguments.pass caller.frame op.registers types
      (Frame.forParameters op.method)
    heap := caller.heap : Activation }.calledBy caller op.address

/-- Emulate the target of a call. -/
def emulate (target : Method) (types : List TypeName) (callee : Activation)
    (node : Node) : AnalysisM σ (SideEffect × Outcome × Node) := do
  let (emulated, callee) ← machine.emulator.emulate callee target.signature
  match emulated with
  | .error cause =>
      op.abandon machine types (.emulationFailed target.signature cause)
        cause.toExecutionError node
  | .ok result =>
      if result.exceptions.isEmpty then
        let (outcome, node) ← op.returnFrom machine target callee.frame node
        return (result.sideEffect, outcome, node)
      else
        return (result.sideEffect, .raised result.exceptions.length,
          node.raise result.exceptions)

/-- Reflect the target of a call. -/
def reflect (target : Method) (callee : Activation) (node : Node) :
    AnalysisM σ (SideEffect × Outcome × Node) := do
  let heap ← AnalysisM.heap callee.heap
  let (reflected, frame, heap) ←
    AnalysisM.lift (machine.reflector target callee.frame heap)
  AnalysisM.setHeap callee.heap heap
  match reflected with
  | .error cause =>
      AnalysisM.remark (.reflectionRaised target.signature cause)
      return (.strong, .raised 1, node.raise [Exception.ofReflectionError cause])
  | .ok () =>
      let (outcome, node) ← op.returnFrom machine target frame node
      return (.nothing, outcome, node)

/-- Emulate or reflect the target of a call, provided that what runs can cope
with the arguments. -/
def emulateOrReflect (target : Method) (types : List TypeName) (node : Node) :
    AnalysisM σ (SideEffect × Outcome × Node) := do
  let signature := target.signature
  let callee := op.calleeOf types node.activation
  if !Arguments.allKnown op.method callee.frame &&
      !machine.emulator.handlesUnknown signature then
    op.decline machine types (.unknownArguments signature) .unknownArguments node
  else if machine.emulator.canEmulate signature then
    op.emulate machine target types callee node
  else if machine.policy.isSafe signature then
    op.reflect machine target callee node
  else
    let (outcome, node) ← op.returnFrom machine target callee.frame node
    return (.strong, outcome, node)

/-- An activation of the target with the arguments in its parameters. -/
def spawnTarget (target : Method) (types : List TypeName) (caller : Activation) :
    Activation :=
  let spawned := Machine.spawn target caller op.address
  spawned.withFrame (Arguments.pass caller.frame op.registers types spawned.frame)

/-- Execute the body of the target of a call. -/
def recurse (target : Method) (types : List TypeName) (node : Node) :
    AnalysisM σ (SideEffect × Outcome × Node) := do
  let signature := target.signature
  let caller := node.activation
  let callee := op.spawnTarget target types caller
  match ← machine.execute signature callee (some caller) op.address with
  | .error cause =>
      op.abandon machine types (.executionFailed signature cause) cause node
  | .ok none =>
      op.decline machine types (.executionAborted signature) .recursionAborted node
  | .ok (some graph) =>
      let (outcome, node) ←
        op.returnFromGraph target callee.frame.parameterStart graph node
      return (graph.sideEffect, outcome, node)

/-- Execute the target of a call by a strategy. -/
def executeBy (strategy : Strategy) (target : Method) (types : List TypeName)
    (node : Node) : AnalysisM σ (SideEffect × Outcome × Node) := do
  match strategy with
  | .constructObject =>
      let (outcome, node) ← op.construct machine node
      return (.strong, outcome, node)
  | .emulateOrReflect => op.emulateOrReflect machine target types node
  | .unsafeFramework =>
      op.decline machine types (.unsafeFramework target.signature) .unsafeFramework node
  | .noImplementation true =>
      op.decline machine types (.nativeTarget target.signature) .nativeMethod node
  | .noImplementation false =>
      op.decline machine types (.missingImplementation target.signature)
        .missingImplementation node
  | .localRecurse => op.recurse machine target types node

/-- What is settled before a call is executed. -/
structure Plan where
  strategy : Strategy
  target : Method
  /-- The type that each argument is passed as. -/
  types : List TypeName
  /-- The caller's frame, with the argument registers recorded as read. -/
  frame : Frame

/-- Give the arguments types, find the target and choose how to execute it.  The
constructor of the root class needs none of this. -/
def plan (caller : Activation) : AnalysisM σ Plan := do
  if op.method.signature = Signature.objectInit then
    return {
      strategy := .constructObject, target := op.method, types := []
      frame := caller.frame }
  let types ← Arguments.reconcile caller.frame op.registers op.method.parameterTypes
  let registry ← AnalysisM.registry
  let heap ← AnalysisM.heap caller.heap
  let target := op.target registry.catalog heap caller.frame
  if target.signature ≠ op.method.signature then
    AnalysisM.remark (.dispatched op.method.signature target.signature)
  return {
    strategy := Strategy.classify machine registry target, target, types
    frame := caller.frame.recordReads op.registers }

/-- Execute a call site against a node.  The node's side effect is that of the
call. -/
def execute (node : Node) : AnalysisM σ (Invocation × Node) := do
  let plan ← op.plan machine node.activation
  let (sideEffect, outcome, node) ←
    op.executeBy machine plan.strategy plan.target plan.types (node.withFrame plan.frame)
  return ({ strategy := plan.strategy, sideEffect, outcome }, { node with sideEffect })

/-- Execute several call sites, each against a node of its own, one after
another. -/
def executeAll : List (InvokeOp × Node) → AnalysisM σ (List (Invocation × Node))
  | [] => return []
  | (op, node) :: rest => do
      let executed ← op.execute machine node
      return executed :: (← executeAll rest)

end Callsite.InvokeOp
