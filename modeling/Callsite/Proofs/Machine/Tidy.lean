import Callsite.Proofs.Emulation.InPlace
import Callsite.Proofs.Frame.Closed

/-!
# Collaborators that leave no dangling references

A collaborator is tidy if, started from a frame that is closed in a sound heap, it
does nothing to the heap but edit it, and leaves a frame that is closed in the
edited heap.  The emulated and the reflected methods of `java.lang` are tidy, and so
is the standard instantiator, whose instances never forward.
-/

namespace Callsite

variable {σ : Type}

/-- Emulation edits the heap of the activation and leaves its frame closed. -/
def Emulator.Tidy (emulator : Emulator σ) : Prop :=
  ∀ (activation : Activation) (signature : String) (before : Analysis σ),
    (before.heaps.get activation.heap).Sound →
    activation.frame.ClosedIn (before.heaps.get activation.heap) →
    let run := (emulator.emulate activation signature).run before
    (before.heaps.get activation.heap).Edits (run.2.heaps.get activation.heap) ∧
      run.1.2.frame.ClosedIn (run.2.heaps.get activation.heap)

/-- Reflection edits the heap and leaves the frame closed. -/
def Reflector.Tidy (reflector : Reflector σ) : Prop :=
  ∀ (method : Method) (frame : Frame) (heap : Heap) (own : σ),
    heap.Sound → frame.ClosedIn heap →
    let run := (reflector method frame heap).run own
    heap.Edits run.1.2.2 ∧ run.1.2.1.ClosedIn run.1.2.2

/-- New instances do not forward to other objects. -/
def Instantiator.Tidy (instantiator : Instantiator σ) : Prop :=
  ∀ (definition : ClassDef) (own : σ) (inst : Instance),
    ((instantiator definition).run own).1 = .ok inst → inst.isLive = true

/-- Interpretation edits the heap of the activation, and all nodes of a graph that
it returns share that heap and are closed in it. -/
def Interpreter.Tidy (interpreter : Interpreter σ) : Prop :=
  ∀ (method : Method) (callee : Activation) (before : Analysis σ),
    (before.heaps.get callee.heap).Sound →
    callee.frame.ClosedIn (before.heaps.get callee.heap) →
    let run := (interpreter method callee).run before
    (before.heaps.get callee.heap).Edits (run.2.heaps.get callee.heap) ∧
      ∀ graph, run.1 = .ok (some graph) →
        ∀ node ∈ graph.nodes, node.activation.heap = callee.heap ∧
          node.frame.ClosedIn (run.2.heaps.get callee.heap)

/-- All collaborators of the machine are tidy. -/
structure Machine.Tidy (machine : Machine σ) : Prop where
  emulator : machine.emulator.Tidy
  reflector : machine.reflector.Tidy
  instantiator : machine.instantiator.Tidy
  interpreter : machine.interpreter.Tidy

/-- What a sequence of fallible steps results in passes through all of them. -/
theorem exists_of_bind_eq_ok {ε α β : Type} {step : Except ε α} {next : α → Except ε β}
    {value : β} (done : step >>= next = .ok value) :
    ∃ middle, step = .ok middle ∧ next middle = .ok value := by
  cases step with
  | error error => cases done
  | ok middle => exact ⟨middle, rfl, done⟩

namespace JavaLang

namespace EmulatedCall

variable {call : EmulatedCall} {returned : EmulatedReturn} {inst : Instance}
  {type : TypeName}

/-- The call edited the heap and left its frame closed. -/
def LeavesClosed (call : EmulatedCall) (returned : EmulatedReturn) : Prop :=
  call.heap.Edits returned.heap ∧ returned.frame.ClosedIn returned.heap

variable (closed : call.frame.ClosedIn call.heap)
include closed

theorem leavesClosed_raise (exception : Exception) :
    call.LeavesClosed (call.raise exception) :=
  ⟨.refl, closed⟩

theorem leavesClosed_returnNew (isLive : inst.isLive = true)
    (done : call.returnNew inst type = .ok returned) : call.LeavesClosed returned := by
  obtain ⟨⟨handle, grown⟩, allocated, built⟩ := exists_of_bind_eq_ok done
  cases built
  have edits : call.heap.Edits grown := .single (.alloc isLive allocated)
  refine ⟨edits, (closed.edits edits).assign .returned ?_⟩
  exact TypedValue.closedIn_reference.mpr
    ⟨handle, Heap.resolve_alloc_self isLive allocated⟩

theorem leavesClosed_receiveNew (isLive : inst.isLive = true)
    (done : call.receiveNew inst type = .ok returned) : call.LeavesClosed returned := by
  obtain ⟨⟨handle, grown⟩, allocated, built⟩ := exists_of_bind_eq_ok done
  cases built
  have edits : call.heap.Edits grown := .single (.alloc isLive allocated)
  refine ⟨edits, (closed.edits edits).assign _ ?_⟩
  exact TypedValue.closedIn_reference.mpr
    ⟨handle, Heap.resolve_alloc_self isLive allocated⟩

theorem leavesClosed_append {suffix : String}
    (done : call.append suffix = .ok returned) : call.LeavesClosed returned := by
  obtain ⟨⟨handle, content⟩, _, rest⟩ := exists_of_bind_eq_ok done
  obtain ⟨after, replaced, built⟩ := exists_of_bind_eq_ok rest
  cases built
  have edits : call.heap.Edits after := .single (.replace rfl replaced)
  exact ⟨edits, (closed.edits edits).assign .returned ((closed.peekParameter _).edits edits)⟩

/-- Whichever emulated method is called, only objects were made or changed. -/
theorem leavesClosed_run {emulated : Emulated} (done : call.run emulated = .ok returned) :
    call.LeavesClosed returned := by
  cases emulated with
  | objectGetClass =>
      simp only [run] at done
      split at done
      · cases done
        exact leavesClosed_raise closed _
      · exact leavesClosed_returnNew closed rfl done
  | stringInit =>
      obtain ⟨text?, _, rest⟩ := exists_of_bind_eq_ok done
      cases text? with
      | none =>
          cases rest
          exact leavesClosed_raise closed _
      | some text => exact leavesClosed_receiveNew closed rfl rest
  | builderInit => exact leavesClosed_receiveNew closed rfl done
  | builderInitString =>
      obtain ⟨text?, _, rest⟩ := exists_of_bind_eq_ok done
      cases text? with
      | none =>
          cases rest
          exact leavesClosed_raise closed _
      | some text => exact leavesClosed_receiveNew closed rfl rest
  | builderAppendString =>
      obtain ⟨suffix, _, rest⟩ := exists_of_bind_eq_ok done
      exact leavesClosed_append closed rest
  | builderAppendInt =>
      simp only [run] at done
      split at done
      · exact leavesClosed_append closed done
      · cases done
  | builderToString =>
      obtain ⟨⟨handle, content⟩, _, rest⟩ := exists_of_bind_eq_ok done
      exact leavesClosed_returnNew closed rfl rest
  | integerParseInt =>
      obtain ⟨text?, _, rest⟩ := exists_of_bind_eq_ok done
      cases text? with
      | none =>
          cases rest
          exact leavesClosed_raise closed _
      | some text =>
          simp only at rest
          split at rest
          · cases rest
            exact leavesClosed_raise closed _
          · next number _ =>
              cases rest
              refine ⟨.refl, closed.assign .returned ?_⟩
              intro handle refers
              cases refers

end EmulatedCall

/-- The methods that are emulated from the start have the handlers given here. -/
theorem exists_of_find?_emulator {signature : String} {method : EmulatedMethod σ}
    (found : (emulator σ).find? signature = some method) :
    ∃ emulated, method.handler = handler emulated := by
  have member := List.mem_of_find?_eq_some found
  obtain ⟨emulated, _, rfl⟩ := List.mem_map.mp member
  exact ⟨emulated, rfl⟩

theorem tidy_emulator : (emulator σ).Tidy := by
  intro activation signature before _ closed run
  cases found : (emulator σ).find? signature with
  | none =>
      have ran : run = ((.error (.methodNotFound signature), activation), before) := by
        simp only [run, Emulator.emulate, found]
        rfl
      rw [ran]
      exact ⟨.refl, closed⟩
  | some method =>
      obtain ⟨emulated, isHandler⟩ := exists_of_find?_emulator found
      have ran : run = (handler emulated activation).run
          ((AnalysisM.remark (.emulating signature)).run before).2 := by
        simp only [run, Emulator.emulate, found, isHandler]
        rfl
      rw [ran, run_handler]
      simp only [AnalysisM.run_remark, HeapStore.get_set_self]
      cases done : (EmulatedCall.mk activation.method activation.frame
        (before.heaps.get activation.heap)).run emulated with
      | error cause => exact ⟨.refl, closed⟩
      | ok returned => exact EmulatedCall.leavesClosed_run closed done

namespace ReflectedCall

variable {call : ReflectedCall} {item : TypedValue} {after : Heap}

/-- A new string is the only object that a reflected method makes. -/
theorem closedIn_newString {text : String} (done : call.newString text = .ok (item, after)) :
    call.heap.Edits after ∧ item.ClosedIn after := by
  simp only [newString] at done
  split at done
  · next handle grown allocated =>
      cases done
      exact ⟨.single (.alloc rfl allocated), TypedValue.closedIn_reference.mpr
        ⟨handle, Heap.resolve_alloc_self rfl allocated⟩⟩
  · cases done

theorem closedIn_primitive {value : Value} {type : TypeName} (noHandle : value.handle? = none)
    (done : call.primitive value type = .ok (item, after)) :
    call.heap.Edits after ∧ item.ClosedIn after := by
  cases done
  refine ⟨.refl, ?_⟩
  intro handle refers
  rw [TypedValue.handle?, noHandle] at refers
  cases refers

/-- Whichever reflected method is called, its result is no dangling reference. -/
theorem closedIn_result {reflected : Reflected}
    (done : call.result reflected = .ok (item, after)) :
    call.heap.Edits after ∧ item.ClosedIn after := by
  cases reflected with
  | stringLength =>
      obtain ⟨text, _, rest⟩ := exists_of_bind_eq_ok done
      exact closedIn_primitive rfl rest
  | stringConcat =>
      obtain ⟨text, _, rest⟩ := exists_of_bind_eq_ok done
      obtain ⟨suffix, _, rest⟩ := exists_of_bind_eq_ok rest
      exact closedIn_newString rest
  | stringCharAt =>
      obtain ⟨text, _, rest⟩ := exists_of_bind_eq_ok done
      obtain ⟨position, _, rest⟩ := exists_of_bind_eq_ok rest
      simp only at rest
      split at rest
      · cases rest
      · split at rest
        · exact closedIn_primitive rfl rest
        · cases rest
  | stringEquals =>
      obtain ⟨text, _, rest⟩ := exists_of_bind_eq_ok done
      obtain ⟨other, _, rest⟩ := exists_of_bind_eq_ok rest
      exact closedIn_primitive rfl rest
  | mathAbs =>
      obtain ⟨number, _, rest⟩ := exists_of_bind_eq_ok done
      exact closedIn_primitive rfl rest
  | mathMax =>
      obtain ⟨left, _, rest⟩ := exists_of_bind_eq_ok done
      obtain ⟨right, _, rest⟩ := exists_of_bind_eq_ok rest
      exact closedIn_primitive rfl rest
  | integerToString =>
      obtain ⟨number, _, rest⟩ := exists_of_bind_eq_ok done
      exact closedIn_newString rest

end ReflectedCall

theorem tidy_reflector : (reflector σ).Tidy := by
  intro method frame heap own _ closed run
  simp only [run, run_reflector]
  cases reflected : reflect method frame heap with
  | error error => exact ⟨.refl, closed⟩
  | ok returned =>
      simp only [reflect] at reflected
      split at reflected
      · cases reflected
      · obtain ⟨⟨item, grown⟩, done, built⟩ := exists_of_bind_eq_ok reflected
        cases built
        obtain ⟨edits, itemClosed⟩ := ReflectedCall.closedIn_result done
        exact ⟨edits, (closed.edits edits).assign .returned itemClosed⟩

end JavaLang

theorem Instantiator.tidy_standard : (Instantiator.standard σ).Tidy := by
  intro definition own inst made
  have made : definition.instantiate = .ok inst := made
  simp only [ClassDef.instantiate] at made
  split at made
  · cases made
  · split at made
    · cases made
      rfl
    · split at made
      · cases made
        rfl
      · cases made
        rfl

theorem Interpreter.tidy_absent : (Interpreter.absent σ).Tidy := by
  intro method callee before _ _
  refine ⟨.refl, ?_⟩
  intro graph returned
  cases returned

/-- With the collaborators that a machine has from the start, all depends on the
interpreter. -/
theorem Machine.tidy_of_interpreter (policy : Policy) {interpreter : Interpreter σ}
    (tidy : interpreter.Tidy) : ({ policy, interpreter } : Machine σ).Tidy where
  emulator := JavaLang.tidy_emulator
  reflector := JavaLang.tidy_reflector
  instantiator := Instantiator.tidy_standard
  interpreter := tidy

end Callsite
