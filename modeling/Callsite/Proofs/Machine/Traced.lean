import Callsite.Proofs.Invoke.Route
import Callsite.Proofs.Invoke.Simulation

/-!
# Machines that record the use of their collaborators

A traced machine works like the machine it was made from, and its collaborators keep a
list of the uses that were made of them.  What a collaborator does in turn is not
recorded, so that the list tells the uses that one call makes itself.
-/

namespace Callsite

variable {σ : Type}

/-- One use of a collaborator, with what it was given. -/
inductive Use where
  | instantiated (definition : ClassDef)
  | emulated (signature : String) (handlesUnknown : Bool) (callee : Activation)
  | reflected (target : Method) (frame : Frame)
  | interpreted (target : Method) (callee : Activation)

/-- The method that was run for real. -/
def Use.reflected? : Use → Option Method
  | .reflected target _ => some target
  | _ => none

/-- The collaborators' own state together with the uses made of them. -/
structure Traced (σ : Type) where
  own : σ
  uses : List Use := []

namespace Analysis

/-- The analysis with another state of the collaborators. -/
def withOwn {τ : Type} (analysis : Analysis σ) (own : τ) : Analysis τ where
  registry := analysis.registry
  heaps := analysis.heaps
  remarks := analysis.remarks
  own := own

/-- The analysis without the record of uses. -/
def untraced (analysis : Analysis (Traced σ)) : Analysis σ :=
  analysis.withOwn analysis.own.own

end Analysis

namespace Traced

/-- Record a use of a collaborator that has only its own state. -/
def lift {α : Type} (use : Use) (step : StateM σ α) : StateM (Traced σ) α := fun traced =>
  let (value, own) := step.run traced.own
  (value, { own, uses := traced.uses ++ [use] })

/-- Record a use of a collaborator that takes part in the analysis. -/
def liftAnalysis {α : Type} (use : Use) (step : AnalysisM σ α) : AnalysisM (Traced σ) α :=
  fun analysis =>
    let (value, after) := step.run analysis.untraced
    (value, after.withOwn { own := after.own, uses := analysis.own.uses ++ [use] })

theorem uses_lift {α : Type} {use : Use} {step : StateM σ α} {before after : Traced σ}
    {value : α} (ran : (lift use step).run before = (value, after)) :
    after.uses = before.uses ++ [use] := by
  have after_eq : ((lift use step).run before).2 = after := congrArg Prod.snd ran
  rw [← after_eq]
  rfl

theorem uses_liftAnalysis {α : Type} {use : Use} {step : AnalysisM σ α}
    {before after : Analysis (Traced σ)} {value : α}
    (ran : (liftAnalysis use step).run before = (value, after)) :
    after.own.uses = before.own.uses ++ [use] := by
  have after_eq : ((liftAnalysis use step).run before).2 = after := congrArg Prod.snd ran
  rw [← after_eq]
  rfl

/-- Record the uses of an emulated method. -/
def method (method : EmulatedMethod σ) : EmulatedMethod (Traced σ) where
  signature := method.signature
  handlesUnknown := method.handlesUnknown
  handler callee :=
    liftAnalysis (.emulated method.signature method.handlesUnknown callee)
      (method.handler callee)

end Traced

/-- The machine whose collaborators record the uses made of them. -/
def Machine.traced (machine : Machine σ) : Machine (Traced σ) where
  policy := machine.policy
  emulator := { methods := machine.emulator.methods.map Traced.method }
  reflector target frame heap :=
    Traced.lift (.reflected target frame) (machine.reflector target frame heap)
  instantiator definition :=
    Traced.lift (.instantiated definition) (machine.instantiator definition)
  interpreter target callee :=
    Traced.liftAnalysis (.interpreted target callee) (machine.interpreter target callee)

variable (machine : Machine σ)

namespace Machine

@[simp] theorem policy_traced : machine.traced.policy = machine.policy := rfl

theorem find?_traced (signature : String) :
    machine.traced.emulator.find? signature =
      (machine.emulator.find? signature).map Traced.method := by
  simp only [Emulator.find?, traced, List.find?_map]
  rfl

@[simp] theorem canEmulate_traced (signature : String) :
    machine.traced.emulator.canEmulate signature =
      machine.emulator.canEmulate signature := by
  rw [Emulator.canEmulate, Emulator.canEmulate, find?_traced, Option.isSome_map]

@[simp] theorem handlesUnknown_traced (signature : String) :
    machine.traced.emulator.handlesUnknown signature =
      machine.emulator.handlesUnknown signature := by
  rw [Emulator.handlesUnknown, Emulator.handlesUnknown, find?_traced, Option.any_map]
  rfl

end Machine

/-! ## Tracing changes nothing else -/

/-- The states differ in the record of uses only. -/
def Traced.Erases (first : Analysis (Traced σ)) (second : Analysis σ) : Prop :=
  first.untraced = second

theorem Traced.correspondence (id : HeapId) :
    Correspondence id (Traced.Erases (σ := σ)) where
  catalog erased := by rw [← erased]; rfl
  permitted erased := by rw [← erased]; rfl
  heap erased := by rw [← erased]; rfl
  setHeap heap first second erased := by
    rw [← erased]
    exact ⟨rfl, rfl⟩
  remark made first second erased := by
    rw [← erased]
    exact ⟨rfl, rfl⟩
  remarkAll made first second erased := by
    rw [← erased]
    exact ⟨rfl, rfl⟩
  ancestors name first second erased := by
    rw [← erased]
    exact ⟨rfl, rfl⟩

theorem Machine.simulates_traced (id : HeapId) :
    machine.traced.Simulates id Traced.Erases machine where
  policy := rfl
  canEmulate := machine.canEmulate_traced
  handlesUnknown := machine.handlesUnknown_traced
  emulate signature callee _ := by
    rw [Emulator.emulate, Emulator.emulate]
    rw [find?_traced]
    cases machine.emulator.find? signature with
    | none => exact .pure _
    | some method =>
        apply ((Traced.correspondence id).remark _).bind
        intro _ first second erased
        rw [← erased]
        exact ⟨rfl, rfl⟩
  reflect method frame heap first second erased := by
    rw [← erased]
    exact ⟨rfl, rfl⟩
  instantiate definition first second erased := by
    rw [← erased]
    exact ⟨rfl, rfl⟩
  interpret method callee _ first second erased := by
    rw [← erased]
    exact ⟨rfl, rfl⟩

/-- A call on the traced machine comes to the same as on the machine itself. -/
theorem InvokeOp.untraced_execute (op : InvokeOp) (node : Node)
    (before : Analysis (Traced σ)) :
    let traced := (op.execute machine.traced node).run before
    let plain := (op.execute machine node).run before.untraced
    traced.1 = plain.1 ∧ traced.2.untraced = plain.2 :=
  related_execute (Traced.correspondence node.activation.heap)
    (machine.simulates_traced node.activation.heap) op rfl before before.untraced rfl

end Callsite
