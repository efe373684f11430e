/-!
# Changes in place

A computation that changes a state in place and may fail on the way.  What was changed
before a failure stays changed: nothing is taken back.
-/

namespace Callsite

/-- A computation that changes a state in place and may fail. -/
abbrev InPlace (ε State : Type) := ExceptT ε (StateM State)

namespace InPlace

variable {ε State α β γ : Type}

/-- Look at the state. -/
def ask (question : State → Except ε α) : InPlace ε State α :=
  ExceptT.mk do return question (← get)

/-- What is left of a state by a change that is made at once: all of the change, or the
state as it was if the change fails. -/
def settle (state : State) (change : Except ε (α × State)) : Except ε α × State :=
  match change with
  | .error cause => (.error cause, state)
  | .ok (value, changed) => (.ok value, changed)

/-- Take one step, which changes the state unless it fails itself. -/
def step (change : State → Except ε (α × State)) : InPlace ε State α :=
  ExceptT.mk do modifyGet fun state => settle state (change state)

/-- What a computation comes to, and the state that it leaves. -/
def perform (computation : InPlace ε State α) (state : State) : Except ε α × State :=
  computation.run.run state

/-- A computation goes on from the state that the last step left. -/
theorem perform_bind (computation : InPlace ε State α) (next : α → InPlace ε State β)
    (state : State) :
    perform (computation >>= next) state =
      match perform computation state with
      | (.error cause, state) => (.error cause, state)
      | (.ok value, state) => perform (next value) state := by
  rcases ran : perform computation state with ⟨result, after⟩
  have ran : computation.run.run state = (result, after) := ran
  simp only [perform, ExceptT.run_bind, StateT.run_bind, ran]
  cases result with
  | error cause => rfl
  | ok value => rfl

/-- A step that fails itself changes nothing. -/
theorem perform_step (change : State → Except ε (α × State)) (state : State) :
    perform (step change) state = settle state (change state) := rfl

theorem perform_ask (question : State → Except ε α) (state : State) :
    perform (ask question) state = (question state, state) := rfl

/-- A question that is asked first changes nothing, whatever the answer. -/
theorem perform_ask_bind {question : State → Except ε α} {next : α → InPlace ε State β}
    {rest : α → Except ε γ} {made : γ → β × State} {state : State}
    (same : ∀ value, perform (next value) state = settle state (made <$> rest value)) :
    perform (ask question >>= next) state =
      settle state (made <$> (question state >>= rest)) := by
  rw [perform_bind, perform_ask]
  cases question state with
  | error cause => rfl
  | ok value => exact same value

end InPlace

end Callsite
