import Callsite.Machine

/-!
# Emulated and reflected methods in place

Every emulated method looks at its arguments first, changes the heap once and then only
writes registers, and a reflected method makes its result before it writes it.  So what
they do in place is what their calls come to as functions, made at once: a call that fails
has changed nothing.
-/

namespace Callsite.JavaLang

variable {σ : Type}

open InPlace (settle perform_ask perform_ask_bind perform_bind perform_step)

namespace EmulatedCall

variable (call : EmulatedCall)

/-- What an emulated call leaves in place when it returns. -/
def left (returned : EmulatedReturn) : EmulationResult × EmulatedCall :=
  (returned.result, { call with frame := returned.frame, heap := returned.heap })

theorem perform_view_bind {α β : Type} (question : EmulatedCall → α)
    (next : α → EmulatedM β) :
    (EmulatedM.view question >>= next).perform call =
      (next (question call)).perform call := rfl

theorem perform_returnNew (inst : Instance) (type : TypeName) :
    (EmulatedM.returnNew inst type).perform call =
      settle call (call.left <$> call.returnNew inst type) := by
  rw [EmulatedM.returnNew, EmulatedM.alloc, perform_bind, perform_step, returnNew]
  cases call.heap.alloc inst with
  | error cause => rfl
  | ok allocated => rfl

theorem perform_receiveNew (inst : Instance) (type : TypeName) :
    (EmulatedM.receiveNew inst type).perform call =
      settle call (call.left <$> call.receiveNew inst type) := by
  rw [EmulatedM.receiveNew, EmulatedM.alloc, perform_bind, perform_step, receiveNew]
  cases call.heap.alloc inst with
  | error cause => rfl
  | ok allocated => rfl

theorem perform_append (suffix : String) :
    (EmulatedM.append suffix).perform call =
      settle call (call.left <$> call.append suffix) := by
  refine perform_ask_bind fun (handle, content) => ?_
  simp only
  rw [perform_bind, EmulatedM.replace, perform_step]
  cases call.heap.replace handle (.builder (content ++ suffix)) with
  | error cause => rfl
  | ok heap => rfl

/-- Carrying out a call in place comes to what the call comes to, made at once. -/
theorem perform_carryOut (emulated : Emulated) :
    (carryOut emulated).perform call = settle call (call.left <$> call.run emulated) := by
  cases emulated with
  | objectGetClass =>
      simp only [carryOut, run, perform_view_bind]
      split
      · rfl
      · exact call.perform_returnNew _ _
  | stringInit =>
      refine perform_ask_bind fun text? => ?_
      cases text? with
      | none => rfl
      | some text => exact call.perform_receiveNew _ _
  | builderInit => exact call.perform_receiveNew _ _
  | builderInitString =>
      refine perform_ask_bind fun text? => ?_
      cases text? with
      | none => rfl
      | some text => exact call.perform_receiveNew _ _
  | builderAppendString => exact perform_ask_bind fun suffix => call.perform_append _
  | builderAppendInt =>
      simp only [carryOut, run, perform_view_bind]
      split
      · exact call.perform_append _
      · rfl
  | builderToString => exact perform_ask_bind fun receiver => call.perform_returnNew _ _
  | integerParseInt =>
      refine perform_ask_bind fun text? => ?_
      cases text? with
      | none => rfl
      | some text =>
          simp only
          split
          · rfl
          · rfl

end EmulatedCall

/-- The handler of an emulated method puts what the call leaves into the activation and its
heap. -/
theorem run_handler (emulated : Emulated) (activation : Activation) (before : Analysis σ) :
    let call : EmulatedCall :=
      { method := activation.method
        frame := activation.frame
        heap := before.heaps.get activation.heap }
    let performed := settle call (call.left <$> call.run emulated)
    (handler emulated activation).run before =
      ((performed.1, activation.withFrame performed.2.frame),
        { before with heaps := before.heaps.set activation.heap performed.2.heap }) := by
  intro call performed
  have carried : (carryOut emulated).perform call = performed := call.perform_carryOut emulated
  rw [← carried]
  rfl

namespace ReflectedCall

variable (call : ReflectedCall)

/-- What a reflected call leaves in place once its result is made. -/
def left (made : TypedValue × Heap) : TypedValue × ReflectedCall :=
  (made.1, { call with heap := made.2 })

theorem perform_newString (text : String) :
    (ReflectedM.newString text).perform call =
      settle call (call.left <$> call.newString text) := by
  rw [ReflectedM.newString, perform_step]
  cases call.newString text with
  | error cause => rfl
  | ok made => rfl

/-- Making the result in place comes to what the call comes to, made at once. -/
theorem perform_result (reflected : Reflected) :
    (ReflectedM.result reflected).perform call =
      settle call (call.left <$> call.result reflected) := by
  cases reflected with
  | stringLength => exact perform_ask_bind fun text => rfl
  | stringConcat =>
      exact perform_ask_bind fun text =>
        perform_ask_bind fun suffix => call.perform_newString _
  | stringCharAt =>
      refine perform_ask_bind fun text => perform_ask_bind fun position => ?_
      simp only
      split
      · rfl
      · split
        · rfl
        · rfl
  | stringEquals =>
      exact perform_ask_bind fun text => perform_ask_bind fun other => rfl
  | mathAbs => exact perform_ask_bind fun number => rfl
  | mathMax => exact perform_ask_bind fun left => perform_ask_bind fun right => rfl
  | integerToString => exact perform_ask_bind fun number => call.perform_newString _

/-- Reflecting in place comes to what the reflection comes to, made at once. -/
theorem perform_reflect :
    ReflectedM.reflect.perform call =
      settle call ((fun written => ((), { call with frame := written.1, heap := written.2 })) <$>
        reflect call.method call.frame call.heap) := by
  rw [ReflectedM.reflect, perform_bind, perform_ask, reflect]
  simp only
  cases Reflected.ofSignature? call.method.signature with
  | none => rfl
  | some reflected =>
      simp only
      rw [perform_bind, perform_result]
      cases call.result reflected with
      | error cause => rfl
      | ok made => rfl

end ReflectedCall

/-- The reflector leaves what the reflection comes to, or the frame and the heap as they
were. -/
theorem run_reflector (method : Method) (frame : Frame) (heap : Heap) (own : σ) :
    ((reflector σ) method frame heap).run own =
      (match reflect method frame heap with
        | .error cause => (.error cause, frame, heap)
        | .ok (written, grown) => (.ok (), written, grown), own) := by
  have reflected := ReflectedCall.perform_reflect { method, frame, heap }
  simp only [reflector, reflected]
  cases reflect method frame heap with
  | error cause => rfl
  | ok written => rfl

end Callsite.JavaLang
