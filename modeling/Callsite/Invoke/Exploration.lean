import Callsite.Invoke.Nested

/-!
# Explorations of bodies

An interpreter explores the body of a method: it works on the state of the analysis by
itself, has call sites executed on nodes, and ends with the paths that it has found.  An
exploration says what is done next, so that the calls that an interpreter has executed can
be told apart from its own work.
-/

namespace Callsite

/-- What is done next in the body of a method. -/
inductive Exploration (σ : Type) where
  /-- The exploration is over. -/
  | done (result : Except ExecutionError (Option Graph))
  /-- A step of the interpreter's own, and what is done after it in view of the state that
  it started from. -/
  | work (step : Analysis σ → Analysis σ) (next : Analysis σ → Exploration σ)
  /-- A call site is executed, and what is done after it in view of what it came to. -/
  | call (op : InvokeOp) (node : Node) (next : Invocation → Node → Exploration σ)

/-- Says how the body of a method is explored from an activation. -/
abbrev Explorer (σ : Type) := Method → Activation → Exploration σ

variable {σ : Type}

namespace Exploration

/-- Explore with the help of something that executes call sites. -/
def run (execute : InvokeOp → Node → AnalysisM σ (Invocation × Node)) :
    Exploration σ → AnalysisM σ (Except ExecutionError (Option Graph))
  | .done result => return result
  | .work step next => do
      let analysis ← get
      set (step analysis)
      run execute (next analysis)
  | .call op node next => do
      let (invocation, node) ← execute op node
      run execute (next invocation node)

variable (execute : InvokeOp → Node → AnalysisM σ (Invocation × Node))

theorem run_done (result : Except ExecutionError (Option Graph)) (analysis : Analysis σ) :
    ((done result).run execute).run analysis = (result, analysis) := rfl

theorem run_work (step : Analysis σ → Analysis σ) (next : Analysis σ → Exploration σ)
    (analysis : Analysis σ) :
    ((work step next).run execute).run analysis =
      ((next analysis).run execute).run (step analysis) := rfl

end Exploration

/-- The interpreter that explores bodies as told. -/
def Explorer.body (explorer : Explorer σ) : BodyInterpreter σ :=
  fun execute method callee => (explorer method callee).run execute

end Callsite
