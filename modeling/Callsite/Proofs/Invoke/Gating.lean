import Callsite.Proofs.Invoke.FrameLayout
import Callsite.Proofs.Machine.Traced

/-!
# Which collaborators a call may use

The guards of the collaborators are spread over the choice of a strategy, the test of
the parameters and the limit on nested execution.  Read off the record of a traced
machine they come together: one call uses at most one collaborator, and each use is
gated by what the call, the policy and the caller's registers say (`Gated`).
-/

namespace Callsite

variable {σ : Type}

namespace Strategy

variable {machine : Machine σ} {registry : Registry} {target : Method}

/-- A body is executed only if nothing else is to be done with the method. -/
theorem classify_eq_localRecurse
    (chosen : classify machine registry target = .localRecurse) :
    machine.policy.isSafe target.signature = false ∧
      machine.emulator.canEmulate target.signature = false ∧
      registry.isForbidden target.signature = false ∧ target.hasImplementation = true := by
  simp only [classify] at chosen
  split at chosen
  · cases chosen
  · split at chosen
    · cases chosen
    · next neither =>
        simp only [Bool.or_eq_true, not_or, Bool.not_eq_true] at neither
        split at chosen
        · cases chosen
        · next allowed =>
            rw [Bool.not_eq_true] at allowed
            split at chosen
            · cases chosen
            · next implemented =>
                exact ⟨neither.1, neither.2, allowed, by simpa using implemented⟩

/-- A method is emulated or reflected only if it can be. -/
theorem classify_eq_emulateOrReflect
    (chosen : classify machine registry target = .emulateOrReflect) :
    machine.policy.isSafe target.signature = true ∨
      machine.emulator.canEmulate target.signature = true := by
  simp only [classify] at chosen
  split at chosen
  · cases chosen
  · split at chosen
    · next either => simpa only [Bool.or_eq_true] using either
    · split at chosen
      · cases chosen
      · split at chosen <;> cases chosen

end Strategy

/-- A method that may be run is not among those that may not. -/
theorem Policy.not_mem_unsafeMethods {policy : Policy} {signature : String}
    (safe : policy.isSafe signature = true) : signature ∉ policy.unsafeMethods := by
  simp only [isSafe, Bool.and_eq_true, Bool.not_eq_true', List.contains_eq_mem,
    decide_eq_false_iff_not] at safe
  exact safe.1

namespace InvokeOp

variable {machine : Machine σ} {op : InvokeOp} {target : Method} {types : List TypeName}
  {node returned : Node} {before after : Analysis (Traced σ)} {strategy : Strategy}
  {sideEffect : SideEffect} {outcome : Outcome}

/-- Every argument register of the caller holds a known item. -/
def KnownArguments (op : InvokeOp) (caller : Frame) : Prop :=
  ∀ number ∈ op.registers, (caller.peek (.index number)).isUnknown = false

/-- Every parameter of the callee holds a known item. -/
def KnownParameters (op : InvokeOp) (types : List TypeName) (caller : Activation) : Prop :=
  Arguments.allKnown op.method (op.calleeOf types caller).frame = true

/-- What the guards on the way to a use say. -/
inductive Passed (machine : Machine σ) (op : InvokeOp) (target : Method)
    (types : List TypeName) (caller : Activation) : Strategy → Use → Prop where
  | instantiated {definition : ClassDef} :
      Passed machine op target types caller .constructObject (.instantiated definition)
  | emulated :
      (op.KnownParameters types caller ∨
        machine.emulator.handlesUnknown target.signature = true) →
      Passed machine op target types caller .emulateOrReflect
        (.emulated target.signature (machine.emulator.handlesUnknown target.signature)
          (op.calleeOf types caller))
  | reflected :
      machine.emulator.canEmulate target.signature = false →
      machine.policy.isSafe target.signature = true →
      op.KnownParameters types caller →
      Passed machine op target types caller .emulateOrReflect
        (.reflected target (op.calleeOf types caller).frame)
  | interpreted :
      (op.spawnTarget target types caller).depth ≤ machine.policy.limits.callDepth →
      Passed machine op target types caller .localRecurse
        (.interpreted target (op.spawnTarget target types caller))

theorem own_of_returned {callee : Frame}
    (return_ : op.Returned machine.traced callee node before outcome returned after) :
    after.own = before.own := by
  cases return_ with
  | lost _ alike => exact alike.own
  | returned _ => rfl

theorem own_of_graphReturned {start : Nat} {graph : Graph}
    (return_ : op.GraphReturned target start graph node before outcome returned after) :
    after.own = before.own := by
  cases return_ with
  | result _ alike => exact alike.own
  | nothing _ _ alike => exact alike.own
  | lost _ _ _ _ alike => exact alike.own
  | constructed _ _ _ _ alike => exact alike.own

/-- Emulating a method that is emulated records one use. -/
theorem uses_of_emulate {callee : Activation} {signature : String}
    (emulated : machine.emulator.canEmulate signature = true) (before : Analysis (Traced σ)) :
    ((machine.traced.emulator.emulate callee signature).run before).2.own.uses =
      before.own.uses ++
        [.emulated signature (machine.emulator.handlesUnknown signature) callee] := by
  rw [Emulator.canEmulate, Option.isSome_iff_exists] at emulated
  obtain ⟨method, found⟩ := emulated
  have named : method.signature = signature :=
    eq_of_beq (List.find?_some (p := fun other : EmulatedMethod σ =>
      other.signature == signature) found)
  simp only [Emulator.emulate, machine.find?_traced, Emulator.handlesUnknown, found,
    Option.map_some, Option.any_some]
  rw [← named]
  rfl

/-- Whichever route a call takes, it adds at most one use to the record, having passed
the guards of that use.  Only a call that is declined for unknown arguments ends without
a use when it was to be emulated or reflected and can be. -/
theorem uses_of_route
    (route : op.Route machine.traced target types node before strategy sideEffect outcome
      returned after) :
    (after.own.uses = before.own.uses ∧
      (strategy = .emulateOrReflect →
        machine.emulator.canEmulate target.signature = true ∨
          machine.policy.isSafe target.signature = true →
        outcome = .assumedUnknown .unknownArguments)) ∨
    ∃ use, after.own.uses = before.own.uses ++ [use] ∧
      Passed machine op target types node.activation strategy use := by
  cases route with
  | unconstructed _ alike =>
      left
      exact ⟨congrArg Traced.uses alike.own, nofun⟩
  | @notInstantiated _ _ definition _ _ _ _ _ instantiated alike =>
      right
      refine ⟨.instantiated definition, ?_, .instantiated⟩
      rw [alike.own]
      exact Traced.uses_lift instantiated
  | @notPlaced _ _ definition _ _ _ _ _ _ _ instantiated _ alike =>
      right
      refine ⟨.instantiated definition, ?_, .instantiated⟩
      rw [alike.own]
      exact Traced.uses_lift instantiated
  | constructed _ _ instantiated _ =>
      right
      exact ⟨_, Traced.uses_lift instantiated, .instantiated⟩
  | refused refusal alike =>
      left
      refine ⟨congrArg Traced.uses alike.own, ?_⟩
      rintro rfl _
      cases refusal
      rfl
  | emulationFailed emulated ready emulation alike =>
      right
      refine ⟨_, ?_, .emulated ?_⟩
      · rw [alike.own, ← uses_of_emulate (by simpa using emulated),
          emulation]
      · simpa [KnownParameters] using ready
  | emulationRaised emulated ready emulation _ =>
      right
      refine ⟨_, ?_, .emulated ?_⟩
      · rw [← uses_of_emulate (by simpa using emulated), emulation]
      · simpa [KnownParameters] using ready
  | emulated emulated ready emulation _ return_ =>
      right
      refine ⟨_, ?_, .emulated ?_⟩
      · rw [own_of_returned return_,
          ← uses_of_emulate (by simpa using emulated), emulation]
      · simpa [KnownParameters] using ready
  | reflectionRaised notEmulated safe known reflection alike =>
      right
      refine ⟨_, ?_, .reflected (by simpa using notEmulated) safe known⟩
      rw [alike.own]
      exact Traced.uses_lift reflection
  | reflected notEmulated safe known reflection return_ =>
      right
      refine ⟨_, ?_, .reflected (by simpa using notEmulated) safe known⟩
      rw [own_of_returned return_]
      exact Traced.uses_lift reflection
  | passedThrough notEmulated notSafe return_ =>
      left
      refine ⟨congrArg Traced.uses (own_of_returned return_), ?_⟩
      rintro _ (emulated | safe)
      · rw [machine.canEmulate_traced, emulated] at notEmulated
        cases notEmulated
      · rw [machine.policy_traced, safe] at notSafe
        cases notSafe
  | interpretationFailed within interpretation alike =>
      right
      refine ⟨_, ?_, .interpreted within⟩
      rw [alike.own]
      exact Traced.uses_liftAnalysis interpretation
  | gaveUp within interpretation alike =>
      right
      refine ⟨_, ?_, .interpreted within⟩
      rw [alike.own]
      exact Traced.uses_liftAnalysis interpretation
  | interpreted within interpretation return_ =>
      right
      refine ⟨_, ?_, .interpreted within⟩
      rw [own_of_graphReturned return_]
      exact Traced.uses_liftAnalysis interpretation

/-- What holds of a call and its caller whenever the call uses a collaborator. -/
def Gated (machine : Machine σ) (op : InvokeOp) (node : Node) (before : Analysis σ)
    (strategy : Strategy) : Use → Prop
  | .instantiated _ => strategy = .constructObject
  | .emulated signature handlesUnknown _ =>
      handlesUnknown = machine.emulator.handlesUnknown signature ∧
        (handlesUnknown = false → op.KnownArguments node.frame)
  | .reflected target frame =>
      machine.emulator.canEmulate target.signature = false ∧
        machine.policy.isSafe target.signature = true ∧
        target.signature ∉ machine.policy.unsafeMethods ∧
        op.KnownArguments node.frame ∧ Arguments.allKnown op.method frame = true
  | .interpreted target callee =>
      target.hasImplementation = true ∧
        machine.policy.isSafe target.signature = false ∧
        machine.emulator.canEmulate target.signature = false ∧
        before.registry.isForbidden target.signature = false ∧
        callee.method = target ∧ callee.depth ≤ machine.policy.limits.callDepth

/-- The parameters of the callee are known only if the registers of the caller are. -/
theorem knownArguments_of_knownParameters {before : Analysis σ}
    (narrow : before.registry.catalog.NarrowSupertypes)
    (known : op.KnownParameters (op.argumentTypes before node.frame)
      (node.withFrame (node.frame.recordReads op.registers)).activation) :
    op.KnownArguments node.frame := by
  rw [← argumentTypes_recordReads] at known
  intro number passed
  have registerKnown :=
    known_of_allKnown (node.withFrame (node.frame.recordReads op.registers)).activation narrow
      known passed
  rw [Node.withFrame, Activation.frame_withFrame, Frame.peek, Frame.get?_recordReads]
    at registerKnown
  exact registerKnown

theorem planFor_traced (machine : Machine σ) (op : InvokeOp) (before : Analysis (Traced σ))
    (node : Node) :
    op.planFor machine.traced before node = op.planFor machine before.untraced node := by
  by_cases constructs : op.method.signature = Signature.objectInit
  · simp only [planFor, planIn, if_pos constructs]
  · rw [planFor_of_ordinary constructs, planFor_of_ordinary constructs]
    have classified :
        Strategy.classify machine.traced before.registry (op.targetFor before node) =
          Strategy.classify machine before.registry (op.targetFor before node) :=
      classify_simulates (machine.simulates_traced node.activation.heap) rfl rfl _
    rw [classified]
    rfl

/-- A use whose guards were passed on the route that was planned is gated. -/
theorem gated_of_passed {before : Analysis σ} {use : Use}
    (narrow : before.registry.catalog.NarrowSupertypes)
    (passed : Passed machine op (op.planFor machine before node).target
      (op.planFor machine before node).types
      (node.withFrame (op.planFor machine before node).frame).activation
      (op.planFor machine before node).strategy use) :
    op.Gated machine node before (op.planFor machine before node).strategy use := by
  by_cases constructs : op.method.signature = Signature.objectInit
  · rw [strategy_planFor_of_objectInit constructs] at passed ⊢
    cases passed
    rfl
  · rw [planFor_of_ordinary constructs] at passed ⊢
    simp only at passed ⊢
    generalize chosen : Strategy.classify machine before.registry
      (op.targetFor before node) = strategy at passed ⊢
    cases passed with
    | instantiated => rfl
    | emulated ready =>
        refine ⟨rfl, ?_⟩
        intro plain
        rcases ready with known | handles
        · exact knownArguments_of_knownParameters narrow known
        · rw [plain] at handles
          cases handles
    | reflected notEmulated safe known =>
        exact ⟨notEmulated, safe, Policy.not_mem_unsafeMethods safe,
          knownArguments_of_knownParameters narrow known, known⟩
    | interpreted within =>
        obtain ⟨notSafe, notEmulated, allowed, implemented⟩ :=
          Strategy.classify_eq_localRecurse chosen
        exact ⟨implemented, notSafe, notEmulated, allowed, rfl, within⟩

/-- A call is to be emulated or reflected only if its target can be. -/
theorem canRun_of_planFor {machine : Machine σ} {before : Analysis σ}
    (chosen : (op.planFor machine before node).strategy = .emulateOrReflect) :
    machine.policy.isSafe (op.planFor machine before node).target.signature = true ∨
      machine.emulator.canEmulate (op.planFor machine before node).target.signature = true := by
  have ordinary : op.method.signature ≠ Signature.objectInit := by
    intro constructs
    rw [strategy_planFor_of_objectInit constructs] at chosen
    cases chosen
  rw [planFor_of_ordinary ordinary] at chosen ⊢
  exact Strategy.classify_eq_emulateOrReflect chosen

/-- What the record of a call on the traced machine says of it: at most one collaborator
was used, and only as it may be; and a call whose target was to be emulated or reflected
had a target that can be, so that it ended without a use only when an argument was
unknown. -/
structure GatedUses (machine : Machine σ) (op : InvokeOp) (node : Node)
    (before : Analysis (Traced σ)) (uses : List Use) : Prop where
  recorded :
    ((op.execute machine.traced node).run before).2.own.uses = before.own.uses ++ uses
  length_le : uses.length ≤ 1
  gated : ∀ use ∈ uses,
    op.Gated machine node before.untraced
      ((op.execute machine node).run before.untraced).1.1.strategy use
  possible :
    ((op.execute machine node).run before.untraced).1.1.strategy = .emulateOrReflect →
      machine.policy.isSafe (op.planFor machine before.untraced node).target.signature = true ∨
        machine.emulator.canEmulate
          (op.planFor machine before.untraced node).target.signature = true
  declined :
    ((op.execute machine node).run before.untraced).1.1.strategy = .emulateOrReflect →
      uses = [] →
      ((op.execute machine node).run before.untraced).1.1.outcome =
        .assumedUnknown .unknownArguments

/-- Provided that no class has a wide primitive for a supertype, one call uses at most one
collaborator, and only as it may.  Recording the uses changes nothing else. -/
theorem execute_gated (machine : Machine σ) (op : InvokeOp) (node : Node)
    (before : Analysis (Traced σ)) (narrow : before.registry.catalog.NarrowSupertypes) :
    ((op.execute machine.traced node).run before).1 =
        ((op.execute machine node).run before.untraced).1 ∧
      ((op.execute machine.traced node).run before).2.untraced =
        ((op.execute machine node).run before.untraced).2 ∧
      ∃ uses, op.GatedUses machine node before uses := by
  obtain ⟨same, erased⟩ := op.untraced_execute machine node before
  refine ⟨same, erased, ?_⟩
  obtain ⟨alike, returned, route, strategy, _⟩ :=
    op.route_execute machine.traced node before
  rw [planFor_traced] at route strategy
  have strategy_eq : ((op.execute machine node).run before.untraced).1.1.strategy =
      (op.planFor machine before.untraced node).strategy := by
    rw [← strategy]
    exact congrArg (fun run => run.1.strategy) same.symm
  have outcome_eq : ((op.execute machine.traced node).run before).1.1.outcome =
      ((op.execute machine node).run before.untraced).1.1.outcome :=
    congrArg (fun run => run.1.outcome) same
  rcases uses_of_route route with ⟨none, declined⟩ | ⟨use, one, passed⟩
  · refine ⟨[], ?_, by simp, by simp, ?_, ?_⟩
    · rw [List.append_nil, ← alike.own]
      exact none
    · rw [strategy_eq]
      exact canRun_of_planFor
    · rw [strategy_eq, ← outcome_eq]
      intro chosen _
      exact declined chosen (canRun_of_planFor chosen).symm
  · refine ⟨[use], ?_, by simp, ?_, ?_, ?_⟩
    · rw [← alike.own]
      exact one
    · intro other member
      rw [List.mem_singleton.mp member, strategy_eq]
      exact gated_of_passed narrow passed
    · rw [strategy_eq]
      exact canRun_of_planFor
    · intro _ impossible
      cases impossible

/-- A node with an object of the derived class, a wide number and a zero that stands for
`null` in the registers that are passed. -/
def storingNode : Node :=
  withDerivedNode.withFrame
    ((withDerivedNode.frame.poke (.index 1) ⟨.long 5000000000, "J"⟩).poke (.index 3)
      (TypedValue.int 0))

/-- The method that overrides the called one may be run on what the registers hold, and it
is, once. -/
theorem execute_gated_storeLong :
    let machine : Machine Unit := { policy := ({} : Policy).allowClass "Lapp/Derived;" }
    let before : Analysis (Traced Unit) := withDerived.withOwn { own := () }
    before.registry.catalog.NarrowSupertypes ∧
      ((storeLong.execute machine.traced storingNode).run before).1 =
        ((storeLong.execute machine storingNode).run before.untraced).1 ∧
      ((storeLong.execute machine.traced storingNode).run before).2.untraced =
        ((storeLong.execute machine storingNode).run before.untraced).2 ∧
      ∃ use, storeLong.GatedUses machine storingNode before [use] ∧
        use.reflected? = some ((storing "Lapp/Derived;").withBody 8) ∧
        storeLong.KnownArguments storingNode.frame := by
  intro machine before
  obtain ⟨same, erased, uses, gated⟩ :=
    execute_gated machine storeLong storingNode before narrowSupertypes_withDerived
  refine ⟨narrowSupertypes_withDerived, same, erased, ?_⟩
  have once : ((storeLong.execute machine.traced storingNode).run before).2.own.uses.map
      Use.reflected? = [some ((storing "Lapp/Derived;").withBody 8)] := by
    decide +kernel
  have none : before.own.uses = [] := rfl
  rw [gated.recorded, none, List.nil_append] at once
  obtain ⟨use, rfl, reflected⟩ := List.map_eq_singleton_iff.mp once
  refine ⟨use, gated, reflected, ?_⟩
  have guards := gated.gated use (List.mem_singleton_self use)
  cases use with
  | reflected target frame => exact guards.2.2.2.1
  | _ => cases reflected

end InvokeOp

end Callsite
