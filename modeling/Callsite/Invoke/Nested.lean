import Callsite.Invoke.Execute

/-!
# Nested execution

An interpreter meets call sites in the bodies that it interprets and has them
executed by the machine that it is part of.  `Machine.nest` ties that knot for a
given number of nested bodies; the body after the last one is given up on.
-/

namespace Callsite

/-- Interprets a body with the help of something that executes call sites. -/
abbrev BodyInterpreter (σ : Type) :=
  (InvokeOp → Node → AnalysisM σ (Invocation × Node)) → Interpreter σ

/-- The machine whose interpreter executes the call sites that it meets on a
machine of the same kind, one body deeper. -/
def Machine.nest {σ : Type} (machine : Machine σ) (body : BodyInterpreter σ) :
    Nat → Machine σ
  | 0 => { machine with interpreter := fun _ _ => return .ok none }
  | levels + 1 =>
      { machine with
        interpreter := body fun op node => op.execute (machine.nest body levels) node }

@[simp] theorem Machine.policy_nest {σ : Type} (machine : Machine σ)
    (body : BodyInterpreter σ) (levels : Nat) :
    (machine.nest body levels).policy = machine.policy := by
  cases levels <;> rfl

end Callsite
