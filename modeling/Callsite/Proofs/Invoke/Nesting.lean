import Callsite.Invoke.Exploration
import Callsite.Proofs.Invoke.Route

/-!
# Calls inside of calls

A call may enter the body of its target, and further calls are executed while that body is
explored.  What a call enters is settled before the interpreter runs (`Call.interpretation?`), and
the interpreter matters to a call at its entry only (`Call.run_congr`).  `Call.Within` are
the calls executed below a call, at any depth, on a machine whose interpreter has the
machine itself execute the call sites that it meets.
-/

namespace Callsite

variable {σ : Type}

/-- The interpreter of the machine explores bodies as told and has the call sites in them
executed by the machine itself. -/
def Machine.Hosts (machine : Machine σ) (explorer : Explorer σ) : Prop :=
  machine.interpreter = explorer.body fun op node => op.execute machine node

/-- A call site that is about to be executed against a node. -/
structure Call (σ : Type) where
  op : InvokeOp
  node : Node
  before : Analysis σ

/-- A body that is about to be explored: the method, the activation of it and the state of
the analysis. -/
structure Interpretation (σ : Type) where
  target : Method
  callee : Activation
  start : Analysis σ

namespace Call

variable (machine : Machine σ) (call : Call σ)

/-- Execute the call. -/
def run : (Invocation × Node) × Analysis σ :=
  (call.op.execute machine call.node).run call.before

/-- What the call comes to. -/
def invocation : Invocation := (call.run machine).1.1

/-- The caller's node after the call. -/
def returned : Node := (call.run machine).1.2

/-- What is settled before the call. -/
def plan : InvokeOp.Plan := call.op.planFor machine call.before call.node

/-- The state of the analysis once the call is planned. -/
def start : Analysis σ := ((call.op.plan machine call.node.activation).run call.before).2

/-- The caller's node with the argument registers recorded as read. -/
def planned : Node := call.node.withFrame (call.plan machine).frame

/-- The activation that the body of the target would run on. -/
def callee : Activation :=
  call.op.spawnTarget (call.plan machine).target (call.plan machine).types
    (call.planned machine).activation

/-- The body that the call has explored, if it comes to that. -/
def interpretation? : Option (Interpretation σ) :=
  if (call.plan machine).strategy = .localRecurse ∧
      (call.callee machine).depth ≤ machine.policy.limits.callDepth then
    some {
      target := (call.plan machine).target
      callee := call.callee machine
      start := call.start machine }
  else
    none

end Call

/-- The calls that an exploration has executed, from first to last. -/
def Exploration.calls (machine : Machine σ) : Exploration σ → Analysis σ → List (Call σ)
  | .done _, _ => []
  | .work step next, analysis => (next analysis).calls machine (step analysis)
  | .call op node next, analysis =>
      let made : Call σ := { op, node, before := analysis }
      made :: (next (made.run machine).1.1 (made.run machine).1.2).calls machine
        (made.run machine).2

/-- The calls that are executed while a body is explored. -/
def Interpretation.calls (machine : Machine σ) (explorer : Explorer σ)
    (interpretation : Interpretation σ) : List (Call σ) :=
  (explorer interpretation.target interpretation.callee).calls machine interpretation.start

/-- The calls executed below a call, with the number of bodies that lie between the two and
the activation that the lower one is executed in. -/
inductive Call.Within (machine : Machine σ) (explorer : Explorer σ) (root : Call σ) :
    Nat → Activation → Call σ → Prop where
  | root : Within machine explorer root 0 root.node.activation root
  | inside {nesting : Nat} {enclosing : Activation} {call inner : Call σ}
      {interpretation : Interpretation σ} :
      Within machine explorer root nesting enclosing call →
      call.interpretation? machine = some interpretation →
      inner ∈ interpretation.calls machine explorer →
      Within machine explorer root (nesting + 1) interpretation.callee inner

variable {machine : Machine σ} {explorer : Explorer σ} {call : Call σ}
  {interpretation : Interpretation σ}

namespace Call

theorem interpretation?_eq_some :
    call.interpretation? machine = some interpretation ↔
      (call.plan machine).strategy = .localRecurse ∧
        (call.callee machine).depth ≤ machine.policy.limits.callDepth ∧
        interpretation =
          { target := (call.plan machine).target
            callee := call.callee machine
            start := call.start machine } := by
  rw [interpretation?]
  split
  · next enters =>
      constructor
      · intro same
        cases same
        exact ⟨enters.1, enters.2, rfl⟩
      · rintro ⟨_, _, rfl⟩
        rfl
  · next remains =>
      constructor
      · intro impossible
        cases impossible
      · intro ⟨recurses, within, _⟩
        exact absurd ⟨recurses, within⟩ remains

/-- Every spawned activation registers its caller once. -/
theorem callers_callee :
    (call.callee machine).callers = call.node.activation.callers ++
      [⟨call.node.activation.method.signature, call.op.address⟩] := rfl

@[simp] theorem depth_callee :
    (call.callee machine).depth = call.node.activation.depth + 1 := by
  rw [Activation.depth, callers_callee, List.length_append]
  rfl

end Call

/-! ## The interpreter matters at the entry only -/

namespace InvokeOp

variable {op : InvokeOp} {target : Method} {types : List TypeName} {node : Node}
  {interpreter : Interpreter σ} {before : Analysis σ}

/-- The target is executed alike by another interpreter that does alike with the body. -/
theorem executeBy_congr (strategy : Strategy)
    (alike : strategy = .localRecurse →
      (op.spawnTarget target types node.activation).depth ≤ machine.policy.limits.callDepth →
      (interpreter target (op.spawnTarget target types node.activation)).run before =
        (machine.interpreter target (op.spawnTarget target types node.activation)).run
          before) :
    (op.executeBy { machine with interpreter } strategy target types node).run before =
      (op.executeBy machine strategy target types node).run before := by
  cases strategy with
  | constructObject => rfl
  | emulateOrReflect => rfl
  | unsafeFramework => rfl
  | noImplementation native =>
      cases native with
      | true => rfl
      | false => rfl
  | localRecurse =>
      have executed :
          (Machine.execute { machine with interpreter } target.signature
            (op.spawnTarget target types node.activation) (some node.activation)
            op.address).run before =
          (machine.execute target.signature (op.spawnTarget target types node.activation)
            (some node.activation) op.address).run before := by
        rw [Machine.execute, Machine.execute]
        split
        · rfl
        · next within => exact alike rfl (Nat.not_lt.mp within)
      simp only [executeBy, recurse, AnalysisM.run_bind, executed]
      rfl

end InvokeOp

/-- A call comes to the same with another interpreter that does the same with the body that
the call enters. -/
theorem Call.run_congr {interpreter : Interpreter σ}
    (alike : ∀ interpretation, call.interpretation? machine = some interpretation →
      (interpreter interpretation.target interpretation.callee).run interpretation.start =
        (machine.interpreter interpretation.target interpretation.callee).run
          interpretation.start) :
    call.run { machine with interpreter } = call.run machine := by
  have planning : call.op.plan { machine with interpreter } call.node.activation =
      call.op.plan machine call.node.activation := rfl
  simp only [run, InvokeOp.execute, AnalysisM.run_bind, planning, InvokeOp.fst_run_plan]
  rw [InvokeOp.executeBy_congr]
  intro recurses within
  exact alike _ (interpretation?_eq_some.mpr ⟨recurses, within, rfl⟩)

namespace Exploration

variable {op : InvokeOp} {node : Node} {next : Invocation → Node → Exploration σ}
  {analysis : Analysis σ}

theorem mem_calls_call :
    call ∈ (Exploration.call op node next).calls machine analysis ↔
      call = { op, node, before := analysis } ∨
        call ∈ (next (Call.run machine ⟨op, node, analysis⟩).1.1
          (Call.run machine ⟨op, node, analysis⟩).1.2).calls machine
            (Call.run machine ⟨op, node, analysis⟩).2 :=
  List.mem_cons

theorem run_call_execute :
    ((Exploration.call op node next).run fun op node => op.execute machine node).run
        analysis =
      ((next (Call.run machine ⟨op, node, analysis⟩).1.1
        (Call.run machine ⟨op, node, analysis⟩).1.2).run
          fun op node => op.execute machine node).run
            (Call.run machine ⟨op, node, analysis⟩).2 := rfl

/-- An exploration comes to the same on a machine that executes its calls alike. -/
theorem run_congr {first second : Machine σ} (exploration : Exploration σ)
    (alike : ∀ call ∈ exploration.calls first analysis, call.run second = call.run first) :
    (exploration.run fun op node => op.execute second node).run analysis =
      (exploration.run fun op node => op.execute first node).run analysis := by
  induction exploration generalizing analysis with
  | done result =>
      -- Comparing the two machines by computation would unfold the execution of calls.
      rw [run_done, run_done]
  | work step next ih =>
      rw [run_work, run_work]
      exact ih analysis alike
  | call op node next ih =>
      have here := alike _ (mem_calls_call.mpr (.inl rfl))
      rw [run_call_execute, run_call_execute, here]
      apply ih
      intro call member
      exact alike call (mem_calls_call.mpr (.inr member))

end Exploration

end Callsite
