import Callsite.Proofs.Invoke.Nesting

/-!
# How deep calls are nested

The limit on nested execution is compared with the number of callers that an activation
has, and every activation that a call spawns has one caller more than the node of the call.
An interpreter that works on clones of the activation it was given therefore only enters
bodies within the limit, and comes to an end: a machine with such an interpreter does what
a nest of as many machines does as calls can still be nested (`Call.run_nest`), and such a
nest is a machine that executes the calls in the bodies itself (`Machine.hosts_nest`).
-/

namespace Callsite

variable {σ : Type}

/-- The explorer has call sites executed only on nodes with the method and the callers of
the activation that it explores. -/
def Explorer.OnClones (explorer : Explorer σ) (machine : Machine σ) : Prop :=
  ∀ interpretation : Interpretation σ, ∀ call ∈ interpretation.calls machine explorer,
    call.node.activation.method = interpretation.callee.method ∧
      call.node.activation.callers = interpretation.callee.callers

/-- All explorations that a call leads to come to an end. -/
inductive Call.Terminates (machine : Machine σ) (explorer : Explorer σ) : Call σ → Prop where
  | intro {call : Call σ} :
      (∀ interpretation, call.interpretation? machine = some interpretation →
        ∀ inner ∈ interpretation.calls machine explorer,
          Terminates machine explorer inner) →
      Terminates machine explorer call

variable {machine : Machine σ} {explorer : Explorer σ} {root call inner : Call σ}
  {interpretation : Interpretation σ} {nesting : Nat} {enclosing : Activation}

/-- The number of calls that can be nested in one from a node. -/
def Machine.depthLeft (machine : Machine σ) (node : Node) : Nat :=
  machine.policy.limits.callDepth - node.activation.depth

/-! ## Bodies within the limit -/

theorem Explorer.OnClones.depth_eq (clones : explorer.OnClones machine)
    (entered : call.interpretation? machine = some interpretation)
    (member : inner ∈ interpretation.calls machine explorer) :
    inner.node.activation.depth = call.node.activation.depth + 1 := by
  rw [Activation.depth, (clones interpretation inner member).2]
  obtain ⟨_, _, rfl⟩ := Call.interpretation?_eq_some.mp entered
  exact call.depth_callee

/-- Calls further below have as many callers more. -/
theorem Call.Within.callers_eq (clones : explorer.OnClones machine)
    (within : root.Within machine explorer nesting enclosing call) :
    call.node.activation.method = enclosing.method ∧
      call.node.activation.callers = enclosing.callers ∧
      call.node.activation.depth = root.node.activation.depth + nesting := by
  induction within with
  | root => exact ⟨rfl, rfl, rfl⟩
  | inside _ entered member ih =>
      obtain ⟨method, callers⟩ := clones _ _ member
      refine ⟨method, callers, ?_⟩
      rw [clones.depth_eq entered member, ih.2.2]
      rfl

/-- What a call enters is an activation of its target with one caller more. -/
theorem Call.callers_of_entry (entered : call.interpretation? machine = some interpretation) :
    interpretation.callee.method = interpretation.target ∧
      interpretation.callee.callers = call.node.activation.callers ++
        [⟨call.node.activation.method.signature, call.op.address⟩] ∧
      interpretation.callee.depth = call.node.activation.depth + 1 ∧
      interpretation.callee.depth ≤ machine.policy.limits.callDepth := by
  obtain ⟨_, within, rfl⟩ := interpretation?_eq_some.mp entered
  exact ⟨rfl, rfl, call.depth_callee, within⟩

/-- No body is entered from a node at the limit. -/
theorem Call.interpretation?_of_limit
    (atLimit : machine.policy.limits.callDepth ≤ call.node.activation.depth) :
    call.interpretation? machine = none := by
  cases entered : call.interpretation? machine with
  | none => rfl
  | some interpretation =>
      obtain ⟨_, _, deeper, within⟩ := callers_of_entry entered
      omega

/-- The target of a call that would pass the limit is not executed. -/
theorem InvokeOp.widened_of_tooDeep {op : InvokeOp} {target : Method}
    {types : List TypeName} {node returned : Node} {before after : Analysis σ}
    {sideEffect : SideEffect} {outcome : Outcome}
    (tooDeep : machine.policy.limits.callDepth <
      (op.spawnTarget target types node.activation).depth)
    (route : op.Route machine target types node before .localRecurse sideEffect outcome
      returned after) :
    sideEffect = .strong ∧ outcome = .assumedUnknown .recursionAborted ∧
      returned = op.widened machine types node := by
  cases route with
  | refused refusal _ =>
      cases refusal
      exact ⟨rfl, rfl, rfl⟩
  | interpretationFailed within _ _ => exact absurd within (Nat.not_le.mpr tooDeep)
  | gaveUp within _ _ => exact absurd within (Nat.not_le.mpr tooDeep)
  | interpreted within _ _ => exact absurd within (Nat.not_le.mpr tooDeep)

/-- A call from a node at the limit whose target would have to be executed is given up on,
and the caller is widened. -/
theorem Call.aborted_of_limit
    (atLimit : machine.policy.limits.callDepth ≤ call.node.activation.depth)
    (recurses : (call.invocation machine).strategy = .localRecurse) :
    (call.invocation machine).outcome = .assumedUnknown .recursionAborted ∧
      call.returned machine =
        { call.op.widened machine (call.plan machine).types (call.planned machine) with
          sideEffect := .strong } := by
  obtain ⟨_, returned, route, strategy, node_eq⟩ :=
    call.op.route_execute machine call.node call.before
  have chosen : (call.plan machine).strategy = .localRecurse := strategy.symm.trans recurses
  have deeper : (call.callee machine).depth = call.node.activation.depth + 1 :=
    call.depth_callee
  rw [← plan, chosen] at route
  obtain ⟨strong, aborted, widened⟩ := InvokeOp.widened_of_tooDeep
    (Nat.lt_of_lt_of_eq (Nat.lt_succ_of_le atLimit) deeper.symm) route
  constructor
  · exact aborted
  · rw [strong, widened] at node_eq
    exact node_eq

/-- An interpreter on clones comes to an end. -/
theorem Call.terminates_of_onClones (clones : explorer.OnClones machine) (call : Call σ) :
    call.Terminates machine explorer := by
  -- Every entry uses up one of the calls that the limit leaves.
  generalize left : machine.depthLeft call.node = remaining
  induction remaining generalizing call with
  | zero =>
      refine .intro fun interpretation entered => ?_
      have atLimit : machine.policy.limits.callDepth ≤ call.node.activation.depth :=
        Nat.sub_eq_zero_iff_le.mp left
      rw [interpretation?_of_limit atLimit] at entered
      cases entered
  | succ remaining ih =>
      refine .intro fun interpretation entered inner member => ih inner ?_
      have deeper := clones.depth_eq entered member
      rw [Machine.depthLeft] at left ⊢
      omega

/-! ## Nests of machines -/

/-- Two machines do the same with a call if their interpreters have the call sites in
bodies executed on machines that do the same one body deeper. -/
theorem Call.run_eq_of_bodies {first second : Machine σ} (clones : explorer.OnClones first)
    (below : ∀ inner : Call σ,
      inner.node.activation.depth = call.node.activation.depth + 1 →
      inner.run second = inner.run first) :
    call.run { machine with interpreter := explorer.body fun op node => op.execute second node } =
      call.run { machine with interpreter := explorer.body fun op node => op.execute first node } := by
  let shallower : Machine σ :=
    { machine with interpreter := explorer.body fun op node => op.execute first node }
  apply @run_congr σ shallower
  intro interpretation entered
  apply Exploration.run_congr
  intro inner member
  apply below
  obtain ⟨_, _, deeper, _⟩ := callers_of_entry entered
  rw [Activation.depth, (clones interpretation inner member).2, ← deeper]
  rfl

/-- Where no body can be entered the interpreter does not matter. -/
theorem Call.run_of_limit {interpreter : Interpreter σ}
    (atLimit : machine.policy.limits.callDepth ≤ call.node.activation.depth) :
    call.run { machine with interpreter } = call.run machine := by
  apply run_congr
  intro interpretation entered
  rw [interpretation?_of_limit atLimit] at entered
  cases entered

/-- A machine that executes the calls in bodies itself does what a nest of machines does
that is as deep as calls can be nested, or deeper. -/
theorem Call.run_nest (hosts : machine.Hosts explorer) (clones : explorer.OnClones machine)
    {levels : Nat} (enough : machine.depthLeft call.node ≤ levels) :
    call.run (machine.nest explorer.body levels) = call.run machine := by
  induction levels generalizing call with
  | zero => exact run_of_limit (Nat.sub_eq_zero_iff_le.mp (Nat.le_zero.mp enough))
  | succ levels ih =>
      have below (inner : Call σ)
          (deeper : inner.node.activation.depth = call.node.activation.depth + 1) :
          inner.run (machine.nest explorer.body levels) = inner.run machine := by
        apply ih
        rw [Machine.depthLeft] at enough ⊢
        omega
      have bodies := @run_eq_of_bodies σ machine explorer call _ _ clones below
      rw [← hosts] at bodies
      exact bodies

/-- A nest that is as deep as calls can be nested is not changed by another level. -/
theorem Call.run_nest_succ
    (clones : ∀ levels, explorer.OnClones (machine.nest explorer.body levels)) {levels : Nat}
    (enough : machine.depthLeft call.node ≤ levels) :
    call.run (machine.nest explorer.body (levels + 1)) =
      call.run (machine.nest explorer.body levels) := by
  induction levels generalizing call with
  | zero =>
      have atLimit := Nat.sub_eq_zero_iff_le.mp (Nat.le_zero.mp enough)
      exact (run_of_limit atLimit).trans (run_of_limit atLimit).symm
  | succ levels ih =>
      apply run_eq_of_bodies (clones levels)
      intro inner deeper
      apply ih
      rw [Machine.depthLeft] at enough ⊢
      omega

/-- Whatever the machine, one whose interpreter has it execute the calls in bodies itself
exists, provided that the interpreter works on clones. -/
theorem Machine.hosts_nest
    (clones : ∀ levels, explorer.OnClones (machine.nest explorer.body levels)) :
    (machine.nest explorer.body (machine.policy.limits.callDepth + 1)).Hosts explorer := by
  have enough (node : Node) : machine.depthLeft node ≤ machine.policy.limits.callDepth :=
    Nat.sub_le ..
  funext method callee analysis
  apply Exploration.run_congr
  intro call _
  exact (Call.run_nest_succ clones (enough call.node)).symm

/-! ## All calls below a call -/

/-- What holds of all calls that are executed below a call.  The activations that are
entered have the enclosing activation for their last caller and lie within the limit, so
that only so many of them are nested; the interpreter is used for them only; a call that
would pass the limit is given up on; all explorations come to an end; and so many nested
machines do the same. -/
structure Call.NestingBounded (machine : Machine σ) (explorer : Explorer σ) (root : Call σ) :
    Prop where
  entered : ∀ nesting enclosing call interpretation,
    root.Within machine explorer nesting enclosing call →
    call.interpretation? machine = some interpretation →
    interpretation.callee.method = interpretation.target ∧
      interpretation.callee.callers =
        enclosing.callers ++ [⟨enclosing.method.signature, call.op.address⟩] ∧
      interpretation.callee.depth = root.node.activation.depth + (nesting + 1) ∧
      interpretation.callee.depth ≤ machine.policy.limits.callDepth ∧
      nesting + 1 ≤ machine.policy.limits.callDepth - root.node.activation.depth
  enteredOnly : ∀ nesting enclosing call interpreter,
    root.Within machine explorer nesting enclosing call →
    (∀ interpretation, call.interpretation? machine = some interpretation →
      (interpreter interpretation.target interpretation.callee).run interpretation.start =
        (machine.interpreter interpretation.target interpretation.callee).run
          interpretation.start) →
    call.run { machine with interpreter } = call.run machine
  aborted : ∀ nesting enclosing call,
    root.Within machine explorer nesting enclosing call →
    machine.policy.limits.callDepth ≤ root.node.activation.depth + nesting →
    (call.invocation machine).strategy = .localRecurse →
    (call.invocation machine).outcome = .assumedUnknown .recursionAborted ∧
      call.returned machine =
        { call.op.widened machine (call.plan machine).types (call.planned machine) with
          sideEffect := .strong }
  terminates : root.Terminates machine explorer
  unrolled : ∀ levels,
    machine.policy.limits.callDepth - root.node.activation.depth ≤ levels →
    root.run (machine.nest explorer.body levels) = root.run machine

/-- Nested execution is bounded below every call. -/
theorem Call.nestingBounded (hosts : machine.Hosts explorer) (clones : explorer.OnClones machine)
    (root : Call σ) : root.NestingBounded machine explorer where
  entered := by
    intro nesting enclosing call interpretation within entered
    obtain ⟨method, callers, depth⟩ := within.callers_eq clones
    obtain ⟨target, registered, deeper, bounded⟩ := callers_of_entry entered
    refine ⟨target, ?_, ?_, bounded, ?_⟩
    · rw [registered, method, callers]
    · rw [deeper, depth, Nat.add_assoc]
    · omega
  enteredOnly := by
    intro nesting enclosing call interpreter _ alike
    exact run_congr alike
  aborted := by
    intro nesting enclosing call within atLimit recurses
    obtain ⟨_, _, depth⟩ := within.callers_eq clones
    rw [← depth] at atLimit
    exact aborted_of_limit atLimit recurses
  terminates := terminates_of_onClones clones root
  unrolled := by
    intro levels enough
    exact run_nest hosts clones enough

/-- The body of every method consists of one call. -/
def Explorer.calling (op : InvokeOp) : Explorer σ := fun method callee =>
  .call op { address := op.address, activation := callee } fun _ node =>
    .done (.ok (some (Graph.single method node)))

theorem Explorer.onClones_calling (op : InvokeOp) (machine : Machine σ) :
    (Explorer.calling op).OnClones machine := by
  intro interpretation call member
  rw [List.mem_singleton.mp member]
  exact ⟨rfl, rfl⟩

/-- Nested execution is bounded for every interpreter that works on clones of what it was
given, and a machine on which a method does nothing but call itself exists and comes to an
end too. -/
theorem Machine.nesting_bounded (machine : Machine σ) (explorer : Explorer σ) (root : Call σ)
    (hosts : machine.Hosts explorer) (clones : explorer.OnClones machine) :
    root.NestingBounded machine explorer ∧
      ∀ op : InvokeOp,
        let recursive := machine.nest (Explorer.calling op).body
          (machine.policy.limits.callDepth + 1)
        recursive.Hosts (Explorer.calling op) ∧
          root.Terminates recursive (Explorer.calling op) := by
  constructor
  · exact root.nestingBounded hosts clones
  · intro op recursive
    have selfHosted : recursive.Hosts (Explorer.calling op) :=
      hosts_nest fun levels => Explorer.onClones_calling op _
    exact ⟨selfHosted, Call.terminates_of_onClones (Explorer.onClones_calling op _) root⟩

/-- A call of a static method with a body. -/
def spin : InvokeOp where
  address := 0
  kind := { family := .static }
  method :=
    { signature := "Lapp/Loop;->spin()V"
      className := "Lapp/Loop;"
      name := "spin"
      descriptor := "spin()V"
      declaredTypes := []
      returnType := "V"
      flags := AccessFlags.isStatic
      body := some 0 }
  registers := []
  length_registers := by decide

/-- The call as a method makes it that nothing calls. -/
def spinCall : Call Unit where
  op := spin
  node := { address := 0, activation := { method := spin.method, frame := Frame.blank 0 0, heap := 0 } }
  before := { own := () }

/-- Where the method calls itself, its body is entered. -/
theorem Machine.nesting_bounded_spin :
    let spinning := ({} : Machine Unit).nest (Explorer.calling spin).body 21
    (spinning.Hosts (Explorer.calling spin) ∧
        (Explorer.calling spin).OnClones spinning ∧
        (spinCall.interpretation? spinning).isSome = true) ∧
      spinCall.NestingBounded spinning (Explorer.calling spin) := by
  intro spinning
  have hosts : spinning.Hosts (Explorer.calling spin) :=
    hosts_nest fun levels => Explorer.onClones_calling spin _
  have clones := Explorer.onClones_calling spin spinning
  constructor
  · exact ⟨hosts, clones, by decide⟩
  · exact (nesting_bounded spinning (Explorer.calling spin) spinCall hosts clones).1

end Callsite
