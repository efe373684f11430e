import Callsite.Proofs.Invoke.Plan

/-!
# Routes of calls

Every way in which the execution of a call site can go, with what each one asks of
the collaborators and what it leaves to the caller.  A proof about all calls is a
case split over these routes: `route_execute` says that there are no others.
-/

namespace Callsite.InvokeOp

variable {σ : Type} (machine : Machine σ) (op : InvokeOp)

/-- The caller's node after a call that did not run. -/
def widened (types : List TypeName) (node : Node) : Node :=
  node.withFrame (GiveUp.widen machine.policy op types node.frame).1

/-- What becomes of the receiver of a call that ran on parameters. -/
def received (heap : Heap) (caller callee : Frame) : Except Error (Frame × Heap) :=
  if op.method.isStatic then .ok (caller, heap)
  else op.returnReceiver machine.policy heap caller callee

/-- The caller's frame with what a call that ran on parameters returned. -/
def withReturned (caller callee : Frame) : Frame :=
  if op.method.returnsVoid then caller
  else caller.assign .result (callee.peek .returned)

variable {op} in
/-- The result is returned in the result slot only. -/
theorem peek_withReturned {caller callee : Frame} {register : Register}
    (elsewhere : register ≠ .result) :
    (op.withReturned caller callee).peek register = caller.peek register := by
  rw [withReturned]
  split
  · rfl
  · rw [Frame.peek, Frame.get?_assign, if_neg fun written => elsewhere written.1.symm]
    rfl

variable {op} in
/-- The placeholder is found in the registers. -/
theorem placeholder_congr {frame other : Frame}
    (same : ∀ register, other.get? register = frame.get? register) (heap : Heap) :
    op.placeholder heap other = op.placeholder heap frame := by
  simp only [placeholder, Frame.peek, same]

variable {op} in
/-- What is waited for is a placeholder that the receiver's register refers to. -/
theorem placeholder_eq_ok {heap : Heap} {frame : Frame} {number : Nat}
    {type : TypeName} :
    op.placeholder heap frame = .ok (number, type) ↔
      op.firstRegister? = some number ∧ ∃ handle,
        (frame.peek (.index number)).handle? = some handle ∧
          heap.get handle = .ok (.uninitialized type) := by
  rw [placeholder]
  cases first : op.firstRegister? with
  | none => simp
  | some receiver =>
      simp only [Option.some.injEq]
      cases refers : (frame.peek (.index receiver)).handle? with
      | none =>
          simp only [reduceCtorEq, false_iff]
          rintro ⟨rfl, handle, held, _⟩
          rw [refers] at held
          cases held
      | some handle =>
          constructor
          · intro waiting
            simp only at waiting
            split at waiting
            · cases waiting
            · next found =>
                cases waiting
                exact ⟨rfl, handle, refers, found⟩
            · cases waiting
          · rintro ⟨rfl, other, held, found⟩
            rw [refers] at held
            cases held
            simp only [found]

/-- Why a call is not handed to any collaborator. -/
inductive Refusal (target : Method) (types : List TypeName) (caller : Activation) :
    Strategy → GiveUpReason → Prop where
  | unknownArguments :
      Arguments.allKnown op.method (op.calleeOf types caller).frame = false →
      machine.emulator.handlesUnknown target.signature = false →
      Refusal target types caller .emulateOrReflect .unknownArguments
  | unsafeFramework :
      Refusal target types caller .unsafeFramework .unsafeFramework
  | native :
      Refusal target types caller (.noImplementation true) .nativeMethod
  | missing :
      Refusal target types caller (.noImplementation false) .missingImplementation
  | tooDeep :
      machine.policy.limits.callDepth < (op.spawnTarget target types caller).depth →
      Refusal target types caller .localRecurse .recursionAborted

/-- Returning from a call that ran on parameters: the receiver's object is lost,
or the caller sees the receiver and the result. -/
inductive Returned (callee : Frame) (node : Node) (before : Analysis σ) :
    Outcome → Node → Analysis σ → Prop where
  | lost {cause : Error} {after : Analysis σ} :
      op.received machine (before.heaps.get node.activation.heap) node.frame callee =
        .error cause →
      before.Alike after →
      Returned callee node before (.internalFault cause) node after
  | returned {frame : Frame} {heap : Heap} :
      op.received machine (before.heaps.get node.activation.heap) node.frame callee =
        .ok (frame, heap) →
      Returned callee node before .completed
        (node.withFrame (op.withReturned frame callee))
        { before with heaps := before.heaps.set node.activation.heap heap }

/-- Returning from an interpreted body: the caller sees the result, or the object
that a constructor made. -/
inductive GraphReturned (target : Method) (start : Nat) (graph : Graph) (node : Node)
    (before : Analysis σ) : Outcome → Node → Analysis σ → Prop where
  | result {after : Analysis σ} :
      op.method.returnsVoid = false →
      before.Alike after →
      GraphReturned target start graph node before .completed
        (node.withFrame (node.frame.assign .result
          (graph.consensusItem before.registry.catalog .returned))) after
  | nothing {after : Analysis σ} :
      op.method.returnsVoid = true →
      (Signature.isConstructor target.signature = false ∨ op.firstRegister? = none) →
      before.Alike after →
      GraphReturned target start graph node before .completed node after
  | lost {number : Nat} {cause : Error} {after : Analysis σ} :
      op.method.returnsVoid = true →
      Signature.isConstructor target.signature = true →
      op.firstRegister? = some number →
      node.frame.assignIdentity (before.heaps.get node.activation.heap) number
        (graph.consensusItem before.registry.catalog (.index start)) = .error cause →
      before.Alike after →
      GraphReturned target start graph node before (.internalFault cause) node after
  | constructed {number : Nat} {frame : Frame} {heap : Heap} {after : Analysis σ} :
      op.method.returnsVoid = true →
      Signature.isConstructor target.signature = true →
      op.firstRegister? = some number →
      node.frame.assignIdentity (before.heaps.get node.activation.heap) number
        (graph.consensusItem before.registry.catalog (.index start)) = .ok (frame, heap) →
      { before with
        heaps := before.heaps.set node.activation.heap heap : Analysis σ }.Alike after →
      GraphReturned target start graph node before .completed (node.withFrame frame) after

/-- The ways in which executing the target of a call can go. -/
inductive Route (target : Method) (types : List TypeName) (node : Node)
    (before : Analysis σ) :
    Strategy → SideEffect → Outcome → Node → Analysis σ → Prop where
  /-- There is no placeholder to complete, or its class is not known. -/
  | unconstructed {cause : Error} {after : Analysis σ} :
      (op.placeholder (before.heaps.get node.activation.heap) node.frame = .error cause ∨
        ∃ number type,
          op.placeholder (before.heaps.get node.activation.heap) node.frame =
            .ok (number, type) ∧
          before.registry.catalog.resolve type = .error cause) →
      before.Alike after →
      Route target types node before .constructObject .strong (.internalFault cause) node
        after
  /-- The class has no instances. -/
  | notInstantiated {number : Nat} {type : TypeName} {definition : ClassDef}
      {cause : Error} {own : σ} {after : Analysis σ} :
      op.placeholder (before.heaps.get node.activation.heap) node.frame =
        .ok (number, type) →
      before.registry.catalog.resolve type = .ok definition →
      (machine.instantiator definition).run before.own = (.error cause, own) →
      { before with own : Analysis σ }.Alike after →
      Route target types node before .constructObject .strong (.internalFault cause) node
        after
  /-- There is no room for the instance, or no object for it to replace. -/
  | notPlaced {number : Nat} {type : TypeName} {definition : ClassDef}
      {inst : Instance} {cause : Error} {own : σ} {grown : Heap} {after : Analysis σ} :
      op.placeholder (before.heaps.get node.activation.heap) node.frame =
        .ok (number, type) →
      before.registry.catalog.resolve type = .ok definition →
      (machine.instantiator definition).run before.own = (.ok inst, own) →
      node.frame.placeInstance (before.heaps.get node.activation.heap) number type inst =
        (.error cause, grown) →
      { before with
        own
        heaps := before.heaps.set node.activation.heap grown : Analysis σ }.Alike after →
      Route target types node before .constructObject .strong (.internalFault cause) node
        after
  | constructed {number : Nat} {type : TypeName} {definition : ClassDef}
      {inst : Instance} {own : σ} {frame : Frame} {grown : Heap} :
      op.placeholder (before.heaps.get node.activation.heap) node.frame =
        .ok (number, type) →
      before.registry.catalog.resolve type = .ok definition →
      (machine.instantiator definition).run before.own = (.ok inst, own) →
      node.frame.placeInstance (before.heaps.get node.activation.heap) number type inst =
        (.ok frame, grown) →
      Route target types node before .constructObject .strong .completed
        (node.withFrame frame)
        { before with own, heaps := before.heaps.set node.activation.heap grown }
  /-- No collaborator may run. -/
  | refused {strategy : Strategy} {reason : GiveUpReason} {after : Analysis σ} :
      op.Refusal machine target types node.activation strategy reason →
      before.Alike after →
      Route target types node before strategy .strong (.assumedUnknown reason)
        (op.widened machine types node) after
  | emulationFailed {cause : Error} {callee : Activation} {ran after : Analysis σ} :
      machine.emulator.canEmulate target.signature = true →
      (Arguments.allKnown op.method (op.calleeOf types node.activation).frame = true ∨
        machine.emulator.handlesUnknown target.signature = true) →
      (machine.emulator.emulate (op.calleeOf types node.activation) target.signature).run
        before = ((.error cause, callee), ran) →
      ran.Alike after →
      Route target types node before .emulateOrReflect .strong
        (.indeterminate cause.toExecutionError) (op.widened machine types node) after
  | emulationRaised {result : EmulationResult} {callee : Activation}
      {after : Analysis σ} :
      machine.emulator.canEmulate target.signature = true →
      (Arguments.allKnown op.method (op.calleeOf types node.activation).frame = true ∨
        machine.emulator.handlesUnknown target.signature = true) →
      (machine.emulator.emulate (op.calleeOf types node.activation) target.signature).run
        before = ((.ok result, callee), after) →
      result.exceptions ≠ [] →
      Route target types node before .emulateOrReflect result.sideEffect
        (.raised result.exceptions.length) (node.raise result.exceptions) after
  | emulated {result : EmulationResult} {callee : Activation} {outcome : Outcome}
      {returned : Node} {ran after : Analysis σ} :
      machine.emulator.canEmulate target.signature = true →
      (Arguments.allKnown op.method (op.calleeOf types node.activation).frame = true ∨
        machine.emulator.handlesUnknown target.signature = true) →
      (machine.emulator.emulate (op.calleeOf types node.activation) target.signature).run
        before = ((.ok result, callee), ran) →
      result.exceptions = [] →
      op.Returned machine callee.frame node ran outcome returned after →
      Route target types node before .emulateOrReflect result.sideEffect outcome returned
        after
  | reflectionRaised {cause : ReflectionError} {frame : Frame} {heap : Heap} {own : σ}
      {after : Analysis σ} :
      machine.emulator.canEmulate target.signature = false →
      machine.policy.isSafe target.signature = true →
      Arguments.allKnown op.method (op.calleeOf types node.activation).frame = true →
      (machine.reflector target (op.calleeOf types node.activation).frame
        (before.heaps.get node.activation.heap)).run before.own =
          ((.error cause, frame, heap), own) →
      { before with
        own
        heaps := before.heaps.set node.activation.heap heap : Analysis σ }.Alike after →
      Route target types node before .emulateOrReflect .strong (.raised 1)
        (node.raise [Exception.ofReflectionError cause]) after
  | reflected {frame : Frame} {heap : Heap} {own : σ} {outcome : Outcome}
      {returned : Node} {after : Analysis σ} :
      machine.emulator.canEmulate target.signature = false →
      machine.policy.isSafe target.signature = true →
      Arguments.allKnown op.method (op.calleeOf types node.activation).frame = true →
      (machine.reflector target (op.calleeOf types node.activation).frame
        (before.heaps.get node.activation.heap)).run before.own =
          ((.ok (), frame, heap), own) →
      op.Returned machine frame node
        { before with own, heaps := before.heaps.set node.activation.heap heap }
        outcome returned after →
      Route target types node before .emulateOrReflect .nothing outcome returned after
  /-- The target is neither emulated nor safe. -/
  | passedThrough {outcome : Outcome} {returned : Node} {after : Analysis σ} :
      machine.emulator.canEmulate target.signature = false →
      machine.policy.isSafe target.signature = false →
      op.Returned machine (op.calleeOf types node.activation).frame node before outcome
        returned after →
      Route target types node before .emulateOrReflect .strong outcome returned after
  | interpretationFailed {cause : ExecutionError} {ran after : Analysis σ} :
      (op.spawnTarget target types node.activation).depth ≤
        machine.policy.limits.callDepth →
      (machine.interpreter target (op.spawnTarget target types node.activation)).run
        before = (.error cause, ran) →
      ran.Alike after →
      Route target types node before .localRecurse .strong (.indeterminate cause)
        (op.widened machine types node) after
  | gaveUp {ran after : Analysis σ} :
      (op.spawnTarget target types node.activation).depth ≤
        machine.policy.limits.callDepth →
      (machine.interpreter target (op.spawnTarget target types node.activation)).run
        before = (.ok none, ran) →
      ran.Alike after →
      Route target types node before .localRecurse .strong
        (.assumedUnknown .recursionAborted) (op.widened machine types node) after
  | interpreted {graph : Graph} {outcome : Outcome} {returned : Node}
      {ran after : Analysis σ} :
      (op.spawnTarget target types node.activation).depth ≤
        machine.policy.limits.callDepth →
      (machine.interpreter target (op.spawnTarget target types node.activation)).run
        before = (.ok (some graph), ran) →
      op.GraphReturned target
        (op.spawnTarget target types node.activation).frame.parameterStart graph node ran
        outcome returned after →
      Route target types node before .localRecurse graph.sideEffect outcome returned after

/-! ## Every call takes a route -/

variable {machine op} {target : Method} {types : List TypeName} {node : Node}

theorem alike_run_giveUp (analysis : Analysis σ) :
    analysis.Alike ((op.giveUp machine types node).run analysis).2 := by
  rw [giveUp]
  generalize GiveUp.widen machine.policy op types node.frame = made
  exact .run_remarkAll analysis made.2

theorem returned_returnFrom (callee : Frame) (before : Analysis σ) :
    let run := (op.returnFrom machine target callee node).run before
    op.Returned machine callee node before run.1.1 run.1.2 run.2 := by
  intro run
  cases became : op.received machine (before.heaps.get node.activation.heap) node.frame
      callee with
  | error cause =>
      have ran : run = ((.internalFault cause, node),
          ((AnalysisM.remark (.receiverLost target.signature op.address cause)).run
            before).2) := by
        simp only [run, returnFrom, AnalysisM.run_bind, AnalysisM.run_heap]
        rw [received] at became
        rw [became]
        rfl
      rw [ran]
      exact .lost became (.run_remark before _)
  | ok placed =>
      obtain ⟨frame, heap⟩ := placed
      have ran : run = ((.completed, node.withFrame (op.withReturned frame callee)),
          { before with heaps := before.heaps.set node.activation.heap heap }) := by
        simp only [run, returnFrom, AnalysisM.run_bind, AnalysisM.run_heap]
        rw [received] at became
        rw [became]
        rfl
      rw [ran]
      exact .returned became

theorem fst_run_settle (graph : Graph) (register : Register) (before : Analysis σ) :
    ((graph.settle register).run before).1 =
      graph.consensusItem before.registry.catalog register := by
  rw [Graph.settle, Graph.consensusItem]
  rw [AnalysisM.run_bind, AnalysisM.run_catalog]
  cases graph.consensus before.registry.catalog register <;> rfl

theorem alike_run_settle (graph : Graph) (register : Register) (before : Analysis σ) :
    before.Alike ((graph.settle register).run before).2 := by
  rw [Graph.settle]
  rw [AnalysisM.run_bind, AnalysisM.run_catalog]
  cases graph.consensus before.registry.catalog register with
  | unwritten _ => exact .refl before
  | agreed _ => exact .refl before
  | widened paths type => exact .run_remark before _

theorem graphReturned_returnFromGraph (start : Nat) (graph : Graph)
    (before : Analysis σ) :
    let run := (op.returnFromGraph target start graph node).run before
    op.GraphReturned target start graph node before run.1.1 run.1.2 run.2 := by
  intro run
  cases isVoid : op.method.returnsVoid with
  | false =>
      have ran : run = ((.completed, node.withFrame (node.frame.assign .result
            ((graph.settle .returned).run before).1)),
          ((graph.settle .returned).run before).2) := by
        simp only [run, returnFromGraph, isVoid]
        rfl
      rw [ran, fst_run_settle]
      exact .result isVoid (alike_run_settle graph .returned before)
  | true =>
      cases constructs : Signature.isConstructor target.signature with
      | false =>
          have ran : run = ((.completed, node), before) := by
            simp only [run, returnFromGraph, isVoid, constructs]
            rfl
          rw [ran]
          exact .nothing isVoid (.inl constructs) (.refl before)
      | true =>
          have settled := alike_run_settle graph (.index start) before
          have ran : run = (op.returnConstructed target
              (graph.consensusItem before.registry.catalog (.index start)) node).run
                ((graph.settle (.index start)).run before).2 := by
            rw [← fst_run_settle graph (.index start) before]
            simp only [run, returnFromGraph, isVoid, constructs]
            rfl
          rw [ran]
          generalize ((graph.settle (.index start)).run before).2 = agreed at settled ⊢
          cases first : op.firstRegister? with
          | none =>
              simp only [returnConstructed, first]
              exact .nothing isVoid (.inr first) settled
          | some number =>
              simp only [returnConstructed, first, AnalysisM.run_bind, AnalysisM.run_heap,
                settled.heaps]
              split
              · next cause failed =>
                  exact .lost isVoid constructs first failed
                    (settled.trans (.run_remark agreed _))
              · next frame heap placed =>
                  refine .constructed isVoid constructs first placed ?_
                  rw [AnalysisM.run_bind, AnalysisM.run_setHeap, AnalysisM.run_pure]
                  exact ⟨settled.catalog, settled.permitted, by rw [settled.heaps],
                    settled.own⟩

/-- The step takes one of the routes of a strategy. -/
def Routed (machine : Machine σ) (op : InvokeOp) (target : Method)
    (types : List TypeName) (node : Node) (strategy : Strategy) (before : Analysis σ)
    (step : AnalysisM σ (SideEffect × Outcome × Node)) : Prop :=
  op.Route machine target types node before strategy (step.run before).1.1
    (step.run before).1.2.1 (step.run before).1.2.2 (step.run before).2

theorem routed_decline {strategy : Strategy} {reason : GiveUpReason}
    (refusal : op.Refusal machine target types node.activation strategy reason)
    (made : Remark) (before : Analysis σ) :
    op.Routed machine target types node strategy before
      (op.decline machine types made reason node) :=
  .refused refusal ((Analysis.Alike.run_remark before made).trans (alike_run_giveUp _))

theorem routed_construct (before : Analysis σ) :
    op.Routed machine target types node .constructObject before
      (op.executeBy machine .constructObject target types node) := by
  rw [Routed]
  generalize ran : (op.executeBy machine .constructObject target types node).run before =
    run
  simp only [executeBy, construct, completeReceiver, Machine.newInstance,
    AnalysisM.run_bind, AnalysisM.run_heap] at ran
  rw [← Node.frame] at ran
  cases waiting : op.placeholder (before.heaps.get node.activation.heap) node.frame with
  | error cause =>
      simp only [waiting] at ran
      cases ran
      exact .unconstructed (.inl waiting) (.run_remark before _)
  | ok place =>
      obtain ⟨number, type⟩ := place
      cases known : before.registry.catalog.resolve type with
      | error cause =>
          simp only [waiting, known, AnalysisM.run_bind, AnalysisM.run_catalog] at ran
          cases ran
          exact .unconstructed (.inr ⟨number, type, waiting, known⟩) (.run_remark before _)
      | ok definition =>
          rcases instantiated : (machine.instantiator definition).run before.own with
            ⟨made, own⟩
          simp only [waiting, known, AnalysisM.run_bind, AnalysisM.run_catalog,
            AnalysisM.run_lift, instantiated] at ran
          cases made with
          | error cause =>
              cases ran
              exact .notInstantiated waiting known instantiated (.run_remark _ _)
          | ok inst =>
              rcases became : node.frame.placeInstance
                (before.heaps.get node.activation.heap) number type inst with
                ⟨placed, grown⟩
              simp only [became] at ran
              cases placed with
              | error cause =>
                  cases ran
                  exact .notPlaced waiting known instantiated became (.run_remark _ _)
              | ok frame =>
                  cases ran
                  exact .constructed waiting known instantiated became

theorem routed_emulate (emulated : machine.emulator.canEmulate target.signature = true)
    (ready : Arguments.allKnown op.method (op.calleeOf types node.activation).frame = true ∨
      machine.emulator.handlesUnknown target.signature = true) (before : Analysis σ) :
    op.Routed machine target types node .emulateOrReflect before
      (op.emulate machine target types (op.calleeOf types node.activation) node) := by
  rw [Routed]
  generalize ran : (op.emulate machine target types (op.calleeOf types node.activation)
    node).run before = run
  rcases emulation : (machine.emulator.emulate (op.calleeOf types node.activation)
    target.signature).run before with ⟨⟨result, callee⟩, emulating⟩
  simp only [emulate, AnalysisM.run_bind, emulation] at ran
  cases result with
  | error cause =>
      subst ran
      exact .emulationFailed emulated ready emulation
        ((Analysis.Alike.run_remark emulating _).trans (alike_run_giveUp _))
  | ok result =>
      by_cases returns : result.exceptions = []
      · simp only [returns, List.isEmpty_nil, if_true] at ran
        subst ran
        exact .emulated emulated ready emulation returns
          (returned_returnFrom callee.frame emulating)
      · simp only [List.isEmpty_iff, returns, if_false] at ran
        subst ran
        exact .emulationRaised emulated ready emulation returns

theorem routed_reflect (notEmulated : machine.emulator.canEmulate target.signature = false)
    (safe : machine.policy.isSafe target.signature = true)
    (known : Arguments.allKnown op.method (op.calleeOf types node.activation).frame = true)
    (before : Analysis σ) :
    op.Routed machine target types node .emulateOrReflect before
      (op.reflect machine target (op.calleeOf types node.activation) node) := by
  rw [Routed]
  generalize ran : (op.reflect machine target (op.calleeOf types node.activation)
    node).run before = run
  rcases reflection : (machine.reflector target (op.calleeOf types node.activation).frame
    (before.heaps.get node.activation.heap)).run before.own with
    ⟨⟨reflected, frame, heap⟩, own⟩
  have sameHeap : (op.calleeOf types node.activation).heap = node.activation.heap := rfl
  simp only [reflect, AnalysisM.run_bind, AnalysisM.run_heap, AnalysisM.run_lift, sameHeap,
    reflection] at ran
  cases reflected with
  | error cause =>
      subst ran
      exact .reflectionRaised notEmulated safe known reflection (.run_remark _ _)
  | ok _ =>
      subst ran
      exact .reflected notEmulated safe known reflection (returned_returnFrom frame _)

theorem routed_emulateOrReflect (before : Analysis σ) :
    op.Routed machine target types node .emulateOrReflect before
      (op.emulateOrReflect machine target types node) := by
  simp only [emulateOrReflect]
  split
  · next unready =>
      simp only [Bool.and_eq_true, Bool.not_eq_true'] at unready
      exact routed_decline (.unknownArguments unready.1 unready.2) _ before
  · next ready =>
      simp only [Bool.and_eq_true, Bool.not_eq_true', not_and, Bool.not_eq_false] at ready
      have ready : Arguments.allKnown op.method (op.calleeOf types node.activation).frame =
          true ∨ machine.emulator.handlesUnknown target.signature = true := by
        cases known : Arguments.allKnown op.method
          (op.calleeOf types node.activation).frame with
        | false => exact .inr (ready known)
        | true => exact .inl rfl
      split
      · next emulated => exact routed_emulate emulated ready before
      · next notEmulated =>
          rw [Bool.not_eq_true] at notEmulated
          split
          · next safe =>
              refine routed_reflect notEmulated safe ?_ before
              rcases ready with known | handles
              · exact known
              · rw [machine.emulator.canEmulate_of_handlesUnknown handles] at notEmulated
                cases notEmulated
          · next notSafe =>
              exact .passedThrough notEmulated (by simpa using notSafe)
                (returned_returnFrom _ before)

theorem routed_recurse (before : Analysis σ) :
    op.Routed machine target types node .localRecurse before
      (op.recurse machine target types node) := by
  rw [Routed]
  generalize ran : (op.recurse machine target types node).run before = run
  by_cases tooDeep : machine.policy.limits.callDepth <
      (op.spawnTarget target types node.activation).depth
  · simp only [recurse, Machine.execute, tooDeep, if_true, AnalysisM.run_bind,
      AnalysisM.run_pure] at ran
    subst ran
    exact .refused (.tooDeep tooDeep) ((Analysis.Alike.run_remark before _).trans
      ((Analysis.Alike.run_remark _ _).trans (alike_run_giveUp _)))
  · rcases interpretation : (machine.interpreter target
      (op.spawnTarget target types node.activation)).run before with ⟨result, ran'⟩
    have sameMethod : (op.spawnTarget target types node.activation).method = target := rfl
    simp only [recurse, Machine.execute, tooDeep, if_false, AnalysisM.run_bind, sameMethod,
      interpretation] at ran
    rw [Nat.not_lt] at tooDeep
    match result with
    | .error cause =>
        subst ran
        exact .interpretationFailed tooDeep interpretation
          ((Analysis.Alike.run_remark _ _).trans (alike_run_giveUp _))
    | .ok none =>
        subst ran
        exact .gaveUp tooDeep interpretation
          ((Analysis.Alike.run_remark _ _).trans (alike_run_giveUp _))
    | .ok (some graph) =>
        subst ran
        exact .interpreted tooDeep interpretation (graphReturned_returnFromGraph _ graph _)

/-- Whatever the strategy, executing the target takes one of its routes. -/
theorem routed_executeBy (strategy : Strategy) (before : Analysis σ) :
    op.Routed machine target types node strategy before
      (op.executeBy machine strategy target types node) := by
  cases strategy with
  | constructObject => exact routed_construct before
  | emulateOrReflect => exact routed_emulateOrReflect before
  | unsafeFramework => exact routed_decline .unsafeFramework _ before
  | noImplementation native =>
      cases native with
      | true => exact routed_decline .native _ before
      | false => exact routed_decline .missing _ before
  | localRecurse => exact routed_recurse before

variable (machine op)

/-- A call is planned and then takes one of the routes of its strategy. -/
theorem route_execute (node : Node) (before : Analysis σ) :
    let plan := op.planFor machine before node
    let planned := ((op.plan machine node.activation).run before).2
    let run := (op.execute machine node).run before
    before.Alike planned ∧ ∃ returned,
      op.Route machine plan.target plan.types (node.withFrame plan.frame) planned
        plan.strategy run.1.1.sideEffect run.1.1.outcome returned run.2 ∧
      run.1.1.strategy = plan.strategy ∧
      run.1.2 = { returned with sideEffect := run.1.1.sideEffect } := by
  intro plan planned run
  have planning : ((op.plan machine node.activation).run before).1 = plan :=
    op.fst_run_plan machine node before
  have ran : run = (({
        strategy := plan.strategy
        sideEffect := ((op.executeBy machine plan.strategy plan.target plan.types
          (node.withFrame plan.frame)).run planned).1.1
        outcome := ((op.executeBy machine plan.strategy plan.target plan.types
          (node.withFrame plan.frame)).run planned).1.2.1 },
      { ((op.executeBy machine plan.strategy plan.target plan.types
          (node.withFrame plan.frame)).run planned).1.2.2 with
        sideEffect := ((op.executeBy machine plan.strategy plan.target plan.types
          (node.withFrame plan.frame)).run planned).1.1 }),
      ((op.executeBy machine plan.strategy plan.target plan.types
        (node.withFrame plan.frame)).run planned).2) := by
    simp only [run, execute, AnalysisM.run_bind, planning]
    rfl
  rw [ran]
  exact ⟨op.alike_run_plan machine node.activation before, _,
    routed_executeBy plan.strategy planned, rfl, rfl⟩

end Callsite.InvokeOp
