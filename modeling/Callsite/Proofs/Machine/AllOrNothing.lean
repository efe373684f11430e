import Callsite.Proofs.Machine.Tidy

/-!
# Collaborators that take nothing half-way

A collaborator that fails has changed nothing.  The emulated methods of `java.lang` raise
before they make or change an object, and whatever else may fail comes before the first
change too; the reflected ones write their result last.
-/

namespace Callsite

variable {σ : Type}

/-- An emulated method did not return: its handler failed, or it raised. -/
inductive NotReturned : Except Error EmulationResult → Prop where
  | failed (cause : Error) : NotReturned (.error cause)
  | raised {result : EmulationResult} : result.exceptions ≠ [] → NotReturned (.ok result)

/-- If the handler does not return, the activation and all heaps are as before. -/
def Handler.AllOrNothing (handler : Handler σ) : Prop :=
  ∀ (activation : Activation) (before : Analysis σ),
    let run := (handler activation).run before
    NotReturned run.1.1 →
      run.1.2 = activation ∧ ∀ id, run.2.heaps.get id = before.heaps.get id

/-- If the reflection fails, the frame and the heap are as before. -/
def Reflector.AllOrNothing (reflector : Reflector σ) : Prop :=
  ∀ (method : Method) (frame : Frame) (heap : Heap) (own : σ) (cause : ReflectionError),
    let run := (reflector method frame heap).run own
    run.1.1 = .error cause → run.1.2 = (frame, heap)

/-- The collaborators of the machine take nothing half-way, and what the instantiator makes
is an object. -/
structure Machine.AllOrNothing (machine : Machine σ) : Prop where
  handlers : ∀ method ∈ machine.emulator.methods, method.handler.AllOrNothing
  reflector : machine.reflector.AllOrNothing
  instantiator : machine.instantiator.Tidy

namespace JavaLang

namespace EmulatedCall

variable {call : EmulatedCall} {returned : EmulatedReturn} {inst : Instance}
  {type : TypeName}

theorem exceptions_returnNew (done : call.returnNew inst type = .ok returned) :
    returned.result.exceptions = [] := by
  obtain ⟨allocated, _, built⟩ := exists_of_bind_eq_ok done
  cases built
  rfl

theorem exceptions_receiveNew (done : call.receiveNew inst type = .ok returned) :
    returned.result.exceptions = [] := by
  obtain ⟨allocated, _, built⟩ := exists_of_bind_eq_ok done
  cases built
  rfl

theorem exceptions_append {suffix : String} (done : call.append suffix = .ok returned) :
    returned.result.exceptions = [] := by
  obtain ⟨receiver, _, rest⟩ := exists_of_bind_eq_ok done
  obtain ⟨heap, _, built⟩ := exists_of_bind_eq_ok rest
  cases built
  rfl

/-- A call that raises does nothing else. -/
theorem eq_raise_of_run {emulated : Emulated} (done : call.run emulated = .ok returned) :
    returned.result.exceptions = [] ∨ ∃ exception, returned = call.raise exception := by
  cases emulated with
  | objectGetClass =>
      simp only [run] at done
      split at done
      · cases done
        exact .inr ⟨_, rfl⟩
      · exact .inl (exceptions_returnNew done)
  | stringInit =>
      obtain ⟨text?, _, rest⟩ := exists_of_bind_eq_ok done
      cases text? with
      | none =>
          cases rest
          exact .inr ⟨_, rfl⟩
      | some text => exact .inl (exceptions_receiveNew rest)
  | builderInit => exact .inl (exceptions_receiveNew done)
  | builderInitString =>
      obtain ⟨text?, _, rest⟩ := exists_of_bind_eq_ok done
      cases text? with
      | none =>
          cases rest
          exact .inr ⟨_, rfl⟩
      | some text => exact .inl (exceptions_receiveNew rest)
  | builderAppendString =>
      obtain ⟨suffix, _, rest⟩ := exists_of_bind_eq_ok done
      exact .inl (exceptions_append rest)
  | builderAppendInt =>
      simp only [run] at done
      split at done
      · exact .inl (exceptions_append done)
      · cases done
  | builderToString =>
      obtain ⟨receiver, _, rest⟩ := exists_of_bind_eq_ok done
      exact .inl (exceptions_returnNew rest)
  | integerParseInt =>
      obtain ⟨text?, _, rest⟩ := exists_of_bind_eq_ok done
      cases text? with
      | none =>
          cases rest
          exact .inr ⟨_, rfl⟩
      | some text =>
          simp only at rest
          split at rest
          · cases rest
            exact .inr ⟨_, rfl⟩
          · cases rest
            exact .inl rfl

end EmulatedCall

theorem allOrNothing_handler (emulated : Emulated) :
    (handler emulated : Handler σ).AllOrNothing := by
  intro activation before run notReturned
  have ran := run_handler emulated activation before
  rw [show run = _ from ran] at notReturned ⊢
  cases done : (EmulatedCall.mk activation.method activation.frame
    (before.heaps.get activation.heap)).run emulated with
  | error cause => exact ⟨rfl, before.heaps.get_set_get activation.heap⟩
  | ok returned =>
      rw [done] at notReturned
      rcases EmulatedCall.eq_raise_of_run done with returns | ⟨exception, rfl⟩
      · cases notReturned with
        | raised exceptions => exact absurd returns exceptions
      · exact ⟨rfl, before.heaps.get_set_get activation.heap⟩

theorem allOrNothing_reflector : (reflector σ).AllOrNothing := by
  intro method frame heap own cause run failed
  have ran := run_reflector method frame heap own
  rw [show run = _ from ran] at failed ⊢
  cases reflected : reflect method frame heap with
  | error error => rfl
  | ok written =>
      rw [reflected] at failed
      cases failed

end JavaLang

/-- The collaborators that a machine has from the start take nothing half-way, whatever the
interpreter. -/
theorem Machine.allOrNothing (policy : Policy) (interpreter : Interpreter σ) :
    ({ policy, interpreter } : Machine σ).AllOrNothing where
  handlers := by
    intro method member
    obtain ⟨emulated, _, rfl⟩ := List.mem_map.mp member
    exact JavaLang.allOrNothing_handler emulated
  reflector := JavaLang.allOrNothing_reflector
  instantiator := Instantiator.tidy_standard

end Callsite
