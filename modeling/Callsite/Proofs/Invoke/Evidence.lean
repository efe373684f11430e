import Callsite.Proofs.Invoke.Depth

/-!
# What side effects are founded on

A call counts as having changed anything unless something that ran says otherwise: an
emulated method reported a lower level, a method was reflected, or a body was explored and
no node of the graph has a higher level (`evidence_of_route`).  A call that did not run has
no such evidence.  An interpreter that keeps in its graph what it has executed hands the
level of such a call on to the call that entered the body, and so to all calls around it.
-/

namespace Callsite

variable {σ : Type}

/-- The call was executed to its end, whether or not the caller sees its effects. -/
inductive Outcome.Ran : Outcome → Prop where
  | completed : Ran .completed
  | internalFault (cause : Error) : Ran (.internalFault cause)

/-- A level is the strongest of the nodes of a graph; it is the least one if there are no
nodes. -/
structure Graph.Strongest (graph : Graph) (level : SideEffect) : Prop where
  covers : ∀ node ∈ graph.nodes, node.sideEffect ≤ level
  attained : level ≠ .nothing → ∃ node ∈ graph.nodes, node.sideEffect = level

theorem Graph.strongest_sideEffect (graph : Graph) : graph.Strongest graph.sideEffect where
  covers := by
    intro node member
    have covered := SideEffect.strongest_le_iff.mp
      (Nat.le_refl (SideEffect.strongest (graph.nodes.toList.map Node.sideEffect)).rank)
    exact covered _ (List.mem_map_of_mem (Array.mem_toList_iff.mpr member))
  attained := by
    intro above
    obtain ⟨node, member, same⟩ := List.mem_map.mp (SideEffect.strongest_mem above)
    exact ⟨node, Array.mem_toList_iff.mp member, same⟩

namespace InvokeOp

variable (machine : Machine σ) (op : InvokeOp)

/-- What the level of a call may be founded on. -/
inductive Evidence (target : Method) (types : List TypeName) (node : Node)
    (before : Analysis σ) : Strategy → SideEffect → Outcome → Prop where
  /-- The emulated method reported the level. -/
  | emulated {result : EmulationResult} {callee : Activation} {outcome : Outcome}
      {ran : Analysis σ} :
      machine.emulator.canEmulate target.signature = true →
      (machine.emulator.emulate (op.calleeOf types node.activation) target.signature).run
        before = ((.ok result, callee), ran) →
      outcome.Ran ∨ outcome = .raised result.exceptions.length →
      Evidence target types node before .emulateOrReflect result.sideEffect outcome
  /-- The method was reflected. -/
  | reflected {frame : Frame} {heap : Heap} {own : σ} {outcome : Outcome} :
      machine.emulator.canEmulate target.signature = false →
      (machine.reflector target (op.calleeOf types node.activation).frame
        (before.heaps.get node.activation.heap)).run before.own =
          ((.ok (), frame, heap), own) →
      outcome.Ran →
      Evidence target types node before .emulateOrReflect .nothing outcome
  /-- The paths through the body were found. -/
  | interpreted {graph : Graph} {level : SideEffect} {outcome : Outcome}
      {ran : Analysis σ} :
      (op.spawnTarget target types node.activation).depth ≤
        machine.policy.limits.callDepth →
      (machine.interpreter target (op.spawnTarget target types node.activation)).run
        before = (.ok (some graph), ran) →
      graph.Strongest level →
      outcome.Ran →
      Evidence target types node before .localRecurse level outcome

/-- Nothing says what the call has changed. -/
inductive Unaccounted (target : Method) : Strategy → Outcome → Prop where
  | assumedUnknown (strategy : Strategy) (reason : GiveUpReason) :
      Unaccounted target strategy (.assumedUnknown reason)
  | indeterminate (strategy : Strategy) (cause : ExecutionError) :
      Unaccounted target strategy (.indeterminate cause)
  | constructed (outcome : Outcome) : Unaccounted target .constructObject outcome
  /-- The reflected method raised. -/
  | reflectionRaised (strategy : Strategy) (count : Nat) :
      machine.emulator.canEmulate target.signature = false →
      Unaccounted target strategy (.raised count)

variable {machine op} {target : Method} {types : List TypeName} {node returned : Node}
  {before after : Analysis σ} {strategy : Strategy} {level : SideEffect}
  {outcome : Outcome}

theorem ran_of_returned {callee : Frame}
    (return_ : op.Returned machine callee node before outcome returned after) :
    outcome.Ran := by
  cases return_ with
  | lost _ _ => exact .internalFault _
  | returned _ => exact .completed

theorem ran_of_graphReturned {start : Nat} {graph : Graph}
    (return_ : op.GraphReturned target start graph node before outcome returned after) :
    outcome.Ran := by
  cases return_ with
  | result _ _ => exact .completed
  | nothing _ _ _ => exact .completed
  | lost _ _ _ _ _ => exact .internalFault _
  | constructed _ _ _ _ _ => exact .completed

/-- Whichever route a call takes, its level is the strongest one or founded on evidence. -/
theorem evidence_of_route
    (route : op.Route machine target types node before strategy level outcome returned
      after) :
    level = .strong ∨
      op.Evidence machine target types node before strategy level outcome := by
  cases route with
  | emulationRaised emulated _ emulation _ =>
      exact .inr (.emulated emulated emulation (.inr rfl))
  | emulated emulated _ emulation _ return_ =>
      exact .inr (.emulated emulated emulation (.inl (ran_of_returned return_)))
  | reflected notEmulated _ _ reflection return_ =>
      exact .inr (.reflected notEmulated reflection (ran_of_returned return_))
  | @interpreted graph _ _ _ _ within interpretation return_ =>
      exact .inr (.interpreted within interpretation graph.strongest_sideEffect
        (ran_of_graphReturned return_))
  -- Every other route ends without anything that could tell.
  | _ => exact .inl rfl

/-- There is no evidence for a call that is not accounted for. -/
theorem Evidence.not_unaccounted
    (evidence : op.Evidence machine target types node before strategy level outcome) :
    ¬ Unaccounted machine target strategy outcome := by
  intro unaccounted
  cases evidence with
  | emulated emulated _ ended =>
      cases unaccounted with
      | reflectionRaised _ _ notEmulated =>
          rw [emulated] at notEmulated
          cases notEmulated
      | _ =>
          cases ended with
          | inl ran => cases ran
          | inr raised => cases raised
  | reflected _ _ ended => cases unaccounted <;> cases ended
  | interpreted _ _ _ ended => cases unaccounted <;> cases ended

/-- A call that enters a body has the strongest level, or the level of the graph that it
got. -/
theorem level_of_recursed
    (route : op.Route machine target types node before .localRecurse level outcome returned
      after) :
    level = .strong ∨ ∃ graph ran,
      (machine.interpreter target (op.spawnTarget target types node.activation)).run
        before = (.ok (some graph), ran) ∧ level = graph.sideEffect := by
  cases route with
  | refused refusal _ => exact .inl rfl
  | interpretationFailed _ _ _ => exact .inl rfl
  | gaveUp _ _ _ => exact .inl rfl
  | interpreted _ interpretation _ => exact .inr ⟨_, _, interpretation, rfl⟩

end InvokeOp

/-- Every call that was executed while a body was explored has a node in the graph that is
returned, of its level or of a higher one. -/
def Explorer.KeepsCalls (explorer : Explorer σ) (machine : Machine σ) : Prop :=
  ∀ (interpretation : Interpretation σ) (graph : Graph) (ran : Analysis σ),
    ((explorer interpretation.target interpretation.callee).run fun op node =>
      op.execute machine node).run interpretation.start = (.ok (some graph), ran) →
    ∀ call ∈ interpretation.calls machine explorer,
      ∃ node ∈ graph.nodes, (call.returned machine).sideEffect ≤ node.sideEffect

variable {machine : Machine σ} {explorer : Explorer σ} {root call inner : Call σ}
  {interpretation : Interpretation σ} {nesting : Nat} {enclosing : Activation}

namespace Call

variable (machine call)

/-- Nothing says what the call has changed. -/
def Unaccounted : Prop :=
  InvokeOp.Unaccounted machine (call.plan machine).target
    (call.invocation machine).strategy (call.invocation machine).outcome

/-- The level of a call stands on the caller's node, is founded on evidence if it is not
the strongest one, and is the strongest one if nothing says what the call has changed. -/
structure Founded : Prop where
  recorded : (call.returned machine).sideEffect = (call.invocation machine).sideEffect
  evidence : (call.invocation machine).sideEffect < .strong →
    call.op.Evidence machine (call.plan machine).target (call.plan machine).types
      (call.planned machine) (call.start machine) (call.invocation machine).strategy
      (call.invocation machine).sideEffect (call.invocation machine).outcome
  unaccounted : call.Unaccounted machine → (call.invocation machine).sideEffect = .strong

/-- Every level is founded. -/
theorem founded : call.Founded machine := by
  obtain ⟨_, returned, route, strategy, node_eq⟩ :=
    call.op.route_execute machine call.node call.before
  rw [← strategy] at route
  have founded := InvokeOp.evidence_of_route route
  constructor
  · exact congrArg Node.sideEffect node_eq
  · intro below
    rcases founded with strong | evidence
    · rw [invocation, run, strong] at below
      exact absurd below (Nat.lt_irrefl _)
    · exact evidence
  · intro unaccounted
    rcases founded with strong | evidence
    · exact strong
    · exact absurd unaccounted evidence.not_unaccounted

variable {machine call}

/-- The level of a call that enters a body is not lower than those of the calls in the
body. -/
theorem strong_of_inside (hosts : machine.Hosts explorer)
    (keeps : explorer.KeepsCalls machine)
    (entered : call.interpretation? machine = some interpretation)
    (member : inner ∈ interpretation.calls machine explorer)
    (strong : (inner.invocation machine).sideEffect = .strong) :
    (call.invocation machine).sideEffect = .strong := by
  obtain ⟨recurses, _, rfl⟩ := interpretation?_eq_some.mp entered
  obtain ⟨_, returned, route, _, _⟩ := call.op.route_execute machine call.node call.before
  rw [← plan, recurses] at route
  rcases InvokeOp.level_of_recursed route with level | ⟨graph, ran, explored, level⟩
  · exact level
  · rw [hosts] at explored
    obtain ⟨node, kept, notLower⟩ := keeps
      { target := (call.plan machine).target
        callee := call.callee machine
        start := call.start machine } graph ran explored inner member
    rw [(inner.founded machine).recorded, strong] at notLower
    have covered := graph.strongest_sideEffect.covers node kept
    exact level.trans (SideEffect.eq_strong_of_le (Nat.le_trans notLower covered))

/-- What a call has changed at worst, every call around it has changed at worst. -/
theorem Within.strong (hosts : machine.Hosts explorer) (keeps : explorer.KeepsCalls machine)
    (within : root.Within machine explorer nesting enclosing inner)
    (strong : (inner.invocation machine).sideEffect = .strong) :
    (root.invocation machine).sideEffect = .strong := by
  induction within with
  | root => exact strong
  | inside _ entered member ih => exact ih (strong_of_inside hosts keeps entered member strong)

end Call

/-- The level of every call is founded, and a call of which nothing says what it has changed
makes the level of every call around it the strongest one, however many bodies lie between
the two. -/
theorem Machine.levels_founded (machine : Machine σ) :
    (∀ call : Call σ, call.Founded machine) ∧
      ∀ explorer : Explorer σ, machine.Hosts explorer → explorer.KeepsCalls machine →
        ∀ (root inner : Call σ) (nesting : Nat) (enclosing : Activation),
          root.Within machine explorer nesting enclosing inner → inner.Unaccounted machine →
            (root.invocation machine).sideEffect = .strong := by
  constructor
  · intro call
    exact call.founded machine
  · intro explorer hosts keeps root inner nesting enclosing within unaccounted
    exact within.strong hosts keeps ((inner.founded machine).unaccounted unaccounted)

/-- The graph of a body that consists of one call consists of the node of that call. -/
theorem Explorer.keepsCalls_calling (op : InvokeOp) (machine : Machine σ) :
    (Explorer.calling op).KeepsCalls machine := by
  intro interpretation graph ran explored call member
  rw [List.mem_singleton.mp member]
  rw [Explorer.calling, Exploration.run_call_execute, Exploration.run_done] at explored
  have same := Option.some.inj (Except.ok.inj (congrArg Prod.fst explored))
  rw [← same]
  exact ⟨_, Array.mem_singleton.mpr rfl, Nat.le_refl _⟩

/-- A call of a static method that is implemented elsewhere. -/
def beep : InvokeOp where
  address := 0
  kind := { family := .static }
  method :=
    { signature := "Lapp/Loop;->beep()V"
      className := "Lapp/Loop;"
      name := "beep"
      descriptor := "beep()V"
      declaredTypes := []
      returnType := "V"
      flags := AccessFlags.isStatic.union AccessFlags.isNative
      body := none }
  registers := []
  length_registers := by decide

/-- The call as it is met in the body that another call enters. -/
def beepCall (machine : Machine Unit) : Call Unit where
  op := beep
  node := { address := 0, activation := spinCall.callee machine }
  before := spinCall.start machine

/-- A call that completes has the strongest level if its body calls what is implemented
elsewhere. -/
theorem Machine.levels_founded_beep :
    let beeping := ({} : Machine Unit).nest (Explorer.calling beep).body 21
    beeping.Hosts (Explorer.calling beep) ∧
      (Explorer.calling beep).KeepsCalls beeping ∧
      spinCall.Within beeping (Explorer.calling beep) 1 (spinCall.callee beeping)
        (beepCall beeping) ∧
      (beepCall beeping).Unaccounted beeping ∧
      (spinCall.invocation beeping).strategy = .localRecurse ∧
      (spinCall.invocation beeping).outcome = .completed ∧
      (spinCall.invocation beeping).sideEffect = .strong := by
  intro beeping
  have hosts : beeping.Hosts (Explorer.calling beep) :=
    hosts_nest fun levels => Explorer.onClones_calling beep _
  have keeps := Explorer.keepsCalls_calling beep beeping
  have entered : spinCall.interpretation? beeping = some
      { target := (spinCall.plan beeping).target
        callee := spinCall.callee beeping
        start := spinCall.start beeping } :=
    Call.interpretation?_eq_some.mpr ⟨by decide, by decide, rfl⟩
  have within : spinCall.Within beeping (Explorer.calling beep) 1 (spinCall.callee beeping)
      (beepCall beeping) :=
    .inside .root entered (List.mem_singleton.mpr rfl)
  have givenUp : ((beepCall beeping).invocation beeping).outcome =
      .assumedUnknown .nativeMethod := by decide
  have unaccounted : (beepCall beeping).Unaccounted beeping := by
    rw [Call.Unaccounted, givenUp]
    exact .assumedUnknown _ _
  refine ⟨hosts, keeps, within, unaccounted, by decide, by decide, ?_⟩
  exact (levels_founded beeping).2 _ hosts keeps spinCall _ 1 _ within unaccounted

end Callsite
