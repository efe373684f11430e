import Callsite.Proofs.Frame.Identity
import Callsite.Proofs.Invoke.Route

/-!
# What giving up leaves in the registers

Giving up on a call writes the registers of the widened arguments and the result
slot, and nothing else.  A register that is passed several times is widened to the
last type for which it is widened at all.  Other registers that hold an argument's
object are left alone.
-/

namespace Callsite

variable {σ : Type}

@[simp] theorem Frame.has_recordRead (frame : Frame) (register other : Register) :
    (frame.recordRead register).has other = frame.has other := by
  cases other <;> rfl

@[simp] theorem Frame.has_recordReads (frame : Frame) (numbers : List Nat)
    (register : Register) : (frame.recordReads numbers).has register = frame.has register := by
  induction numbers generalizing frame with
  | nil => rfl
  | cons number rest ih =>
      exact (ih (frame.recordRead (.index number))).trans
        (frame.has_recordRead (.index number) register)

namespace ArgumentFate

variable {policy : Policy} {initializing : Bool} {item : TypedValue}
  {type : TypeName}

/-- Once an argument is widened, the places where it is passed again fare as they would
have fared before. -/
theorem of_unknown (widened : of policy initializing item type = .widened)
    (later : TypeName) :
    of policy initializing (TypedValue.unknown type) later =
      of policy initializing item later := by
  have notNull : item.isNull = false := by
    cases null : item.isNull with
    | false => rfl
    | true => simp [of, null] at widened
  have unknownNotNull : (TypedValue.unknown type).isNull = false := rfl
  cases initializing with
  | true => simp [of, notNull, unknownNotNull]
  | false =>
      have mutable : policy.isImmutable type = false ∧ item.isImmutable = false ∧
          policy.isImmutable item.type = false := by
        simp only [of, notNull] at widened
        split at widened
        · cases widened
        · split at widened
          · cases widened
          · split at widened
            · cases widened
            · next parameter argument =>
                simp only [Bool.or_eq_true, not_or, Bool.not_eq_true] at parameter argument
                exact ⟨parameter, argument⟩
      obtain ⟨parameter, own, listed⟩ := mutable
      have unknownOwn : (TypedValue.unknown type).isImmutable = false := by
        simp only [Policy.isImmutable, Bool.or_eq_false_iff] at parameter
        exact parameter.1
      have unknownListed : policy.isImmutable (TypedValue.unknown type).type = false :=
        parameter
      simp only [of, notNull, unknownNotNull, own, listed, unknownOwn, unknownListed]

end ArgumentFate

namespace GiveUp

variable {policy : Policy} {initializing : Bool}

/-- The types for which a register that holds an item is widened. -/
def wideningTypes (policy : Policy) (initializing : Bool) (item : TypedValue) (number : Nat)
    (arguments : List (Nat × TypeName)) : List TypeName :=
  arguments.filterMap fun (passed, type) =>
    if passed = number ∧ ArgumentFate.of policy initializing item type = .widened then
      some type
    else
      none

theorem wideningTypes_congr {item other : TypedValue} {number : Nat}
    (same : ∀ type, ArgumentFate.of policy initializing other type =
      ArgumentFate.of policy initializing item type) (arguments : List (Nat × TypeName)) :
    wideningTypes policy initializing other number arguments =
      wideningTypes policy initializing item number arguments := by
  simp only [wideningTypes, same]

/-- A register after one argument has been dealt with. -/
theorem get?_apply (fate : ArgumentFate) (frame : Frame) (number : Nat) (type : TypeName)
    (register : Register) :
    (fate.apply (frame.recordRead (.index number)) number type).get? register =
      if fate = .widened ∧ register = .index number ∧ frame.has register = true then
        some (TypedValue.unknown type)
      else
        frame.get? register := by
  cases fate with
  | widened =>
      simp only [ArgumentFate.apply, Frame.get?_poke, Frame.get?_recordRead,
        Frame.has_recordRead]
      by_cases same : register = .index number
      · subst same
        simp
      · simp [same, Ne.symm same]
  | untouched => simp [ArgumentFate.apply]
  | keptForParameter => simp [ArgumentFate.apply]
  | keptForArgument => simp [ArgumentFate.apply]

theorem has_apply (fate : ArgumentFate) (frame : Frame) (number : Nat) (type : TypeName)
    (register : Register) :
    (fate.apply (frame.recordRead (.index number)) number type).has register =
      frame.has register := by
  cases fate with
  | widened => simp only [ArgumentFate.apply, Frame.has_poke, Frame.has_recordRead]
  | untouched => exact frame.has_recordRead _ register
  | keptForParameter => exact frame.has_recordRead _ register
  | keptForArgument => exact frame.has_recordRead _ register

/-- Widening the arguments leaves the two slots as they are. -/
theorem get?_widenArguments_of_slot {register : Register}
    (slot : ∀ number, register ≠ .index number) (arguments : List (Nat × TypeName))
    (frame : Frame) :
    (widenArguments policy initializing arguments frame).1.get? register =
      frame.get? register := by
  induction arguments generalizing frame with
  | nil => rfl
  | cons argument rest ih =>
      obtain ⟨number, type⟩ := argument
      simp only [widenArguments]
      rw [ih, get?_apply, if_neg]
      rintro ⟨_, same, _⟩
      exact slot number same

theorem has_widenArguments (policy : Policy) (initializing : Bool)
    (arguments : List (Nat × TypeName)) (frame : Frame) (register : Register) :
    (widenArguments policy initializing arguments frame).1.has register =
      frame.has register := by
  induction arguments generalizing frame with
  | nil => rfl
  | cons argument rest ih =>
      obtain ⟨number, type⟩ := argument
      simp only [widenArguments]
      rw [ih, has_apply]

/-- A numbered register is widened to the last type for which it is widened, and keeps
its item if there is none. -/
theorem get?_widenArguments (policy : Policy) (initializing : Bool)
    (arguments : List (Nat × TypeName)) {frame : Frame} {number : Nat}
    (present : frame.has (.index number) = true) :
    (widenArguments policy initializing arguments frame).1.get? (.index number) =
      match (wideningTypes policy initializing (frame.peek (.index number)) number
        arguments).getLast? with
      | some type => some (TypedValue.unknown type)
      | none => frame.get? (.index number) := by
  induction arguments generalizing frame with
  | nil => rfl
  | cons argument rest ih =>
      obtain ⟨passed, type⟩ := argument
      simp only [widenArguments]
      have here := get?_apply (ArgumentFate.of policy initializing
        (frame.peek (.index passed)) type) frame passed type (.index number)
      have stillPresent := has_apply (ArgumentFate.of policy initializing
        (frame.peek (.index passed)) type) frame passed type (.index number)
      rw [present] at stillPresent
      rw [ih stillPresent]
      generalize (ArgumentFate.of policy initializing (frame.peek (.index passed))
        type).apply (frame.recordRead (.index passed)) passed type = next at here ⊢
      by_cases widens : passed = number ∧
          ArgumentFate.of policy initializing (frame.peek (.index number)) type = .widened
      · obtain ⟨rfl, widened⟩ := widens
        rw [if_pos ⟨widened, rfl, present⟩] at here
        have unknown : next.peek (.index passed) = TypedValue.unknown type := by
          simp [Frame.peek, here]
        rw [unknown, wideningTypes_congr (ArgumentFate.of_unknown widened), here]
        simp only [wideningTypes, List.filterMap_cons, widened, and_self, if_true,
          List.getLast?_cons]
        cases (rest.filterMap _).getLast? <;> rfl
      · rw [if_neg (by
          rintro ⟨widened, same, _⟩
          cases same
          exact widens ⟨rfl, widened⟩)] at here
        have kept : next.peek (.index number) = frame.peek (.index number) := by
          simp only [Frame.peek, here]
        rw [kept, here]
        simp only [wideningTypes, List.filterMap_cons, widens, if_false]

end GiveUp

/-- Whether the call did not run to its end, so that the caller's state was widened. -/
def Outcome.gaveUp : Outcome → Bool
  | .assumedUnknown _ => true
  | .indeterminate _ => true
  | _ => false

namespace InvokeOp

variable {machine : Machine σ} {op : InvokeOp} {target : Method} {types : List TypeName}
  {node returned : Node} {before after : Analysis σ} {strategy : Strategy}
  {sideEffect : SideEffect} {outcome : Outcome}

/-- The types for which giving up on a call widens a register of the caller. -/
def wideningTypes (op : InvokeOp) (policy : Policy) (types : List TypeName) (caller : Frame)
    (number : Nat) : List TypeName :=
  GiveUp.wideningTypes policy (Signature.isConstructor op.method.signature)
    (caller.peek (.index number)) number (op.registers.zip types)

/-- The registers that giving up on a call overwrites. -/
def Overwrites (op : InvokeOp) (policy : Policy) (types : List TypeName) (caller : Frame) :
    Register → Prop
  | .index number => op.wideningTypes policy types caller number ≠ []
  | .result => op.method.returnsVoid = false
  | .returned => False

theorem has_widened (register : Register) :
    (op.widened machine types node).frame.has register = node.frame.has register := by
  have arguments := GiveUp.has_widenArguments machine.policy
    (Signature.isConstructor op.method.signature) (op.registers.zip types) node.frame register
  rw [widened, Node.frame_withFrame]
  simp only [GiveUp.widen]
  split
  · exact arguments
  · rw [Frame.has_assign]
    exact arguments

theorem get?_widened_index (machine : Machine σ) (op : InvokeOp) (types : List TypeName)
    {node : Node} {number : Nat} (present : node.frame.has (.index number) = true) :
    (op.widened machine types node).frame.get? (.index number) =
      match (op.wideningTypes machine.policy types node.frame number).getLast? with
      | some type => some (TypedValue.unknown type)
      | none => node.frame.get? (.index number) := by
  have arguments := GiveUp.get?_widenArguments machine.policy
    (Signature.isConstructor op.method.signature) (op.registers.zip types) present
  rw [widened, Node.frame_withFrame]
  simp only [GiveUp.widen]
  split
  · exact arguments
  · rw [Frame.get?_assign, if_neg (by simp)]
    exact arguments

theorem get?_widened_result :
    (op.widened machine types node).frame.get? .result =
      if op.method.returnsVoid then node.frame.get? .result
      else some (TypedValue.unknown op.method.returnType) := by
  rw [widened, Node.frame_withFrame]
  simp only [GiveUp.widen]
  split
  · exact GiveUp.get?_widenArguments_of_slot (by simp) (op.registers.zip types) node.frame
  · rw [Frame.get?_assign, if_pos ⟨rfl, rfl⟩]

/-- What giving up does not overwrite keeps its item, and what it overwrites becomes
unknown. -/
theorem handle?_peek_widened (register : Register) (notReturned : register ≠ .returned)
    (handle : Handle) :
    ((op.widened machine types node).frame.peek register).handle? = some handle ↔
      ¬ op.Overwrites machine.policy types node.frame register ∧
        (node.frame.peek register).handle? = some handle := by
  rw [Frame.handle?_peek_eq_some, Frame.handle?_peek_eq_some]
  cases register with
  | returned => exact absurd rfl notReturned
  | result =>
      rw [get?_widened_result]
      cases isVoid : op.method.returnsVoid with
      | true => simp [Overwrites, isVoid]
      | false => simp [Overwrites, isVoid]
  | index number =>
      cases present : node.frame.has (.index number) with
      | false =>
          have absent (frame : Frame) (missing : frame.has (.index number) = false) :
              frame.get? (.index number) = none := by
            cases held : frame.get? (.index number) with
            | none => rfl
            | some item =>
                rw [Frame.has_of_get? held] at missing
                cases missing
          rw [absent node.frame present, absent _ ((has_widened _).trans present)]
          simp
      | true =>
          rw [get?_widened_index machine op types present, Overwrites]
          cases op.wideningTypes machine.policy types node.frame number with
          | nil => simp
          | cons first rest => simp [List.getLast?_cons]

theorem isUnknown_peek_widened {number : Nat}
    (present : node.frame.has (.index number) = true)
    (widens : op.Overwrites machine.policy types node.frame (.index number)) :
    ((op.widened machine types node).frame.peek (.index number)).isUnknown = true := by
  rw [Overwrites] at widens
  rw [Frame.peek, get?_widened_index machine op types present]
  cases listed : op.wideningTypes machine.policy types node.frame number with
  | nil => exact absurd listed widens
  | cons first rest => simp [List.getLast?_cons]

/-- All routes on which a call is given up on lead to the widened node. -/
theorem returned_of_gaveUp
    (route : op.Route machine target types node before strategy sideEffect outcome returned
      after) (gaveUp : outcome.gaveUp = true) :
    returned = op.widened machine types node ∧ strategy ≠ .constructObject := by
  have notReturned {callee : Frame} {ran : Analysis σ}
      (return_ : op.Returned machine callee node ran outcome returned after) : False := by
    cases return_ <;> cases gaveUp
  have notGraphReturned {start : Nat} {graph : Graph} {ran : Analysis σ}
      (return_ : op.GraphReturned target start graph node ran outcome returned after) :
      False := by
    cases return_ <;> cases gaveUp
  cases route with
  | unconstructed _ _ => cases gaveUp
  | notInstantiated _ _ _ _ => cases gaveUp
  | notPlaced _ _ _ _ _ => cases gaveUp
  | constructed _ _ _ _ => cases gaveUp
  | refused refusal _ =>
      refine ⟨rfl, ?_⟩
      rintro rfl
      cases refusal
  | emulationFailed _ _ _ _ => exact ⟨rfl, nofun⟩
  | emulationRaised _ _ _ _ => cases gaveUp
  | emulated _ _ _ _ return_ => exact (notReturned return_).elim
  | reflectionRaised _ _ _ _ _ => cases gaveUp
  | reflected _ _ _ _ return_ => exact (notReturned return_).elim
  | passedThrough _ _ return_ => exact (notReturned return_).elim
  | interpretationFailed _ _ _ => exact ⟨rfl, nofun⟩
  | gaveUp _ _ _ => exact ⟨rfl, nofun⟩
  | interpreted _ _ return_ => exact (notGraphReturned return_).elim

/-- A call that is given up on leaves the registers widened, by the types that its
arguments have in the state before it. -/
theorem frame_execute_of_gaveUp
    (gaveUp : ((op.execute machine node).run before).1.1.outcome.gaveUp = true) :
    ((op.execute machine node).run before).1.2.frame =
      (op.widened machine (op.argumentTypes before node.frame)
        (node.withFrame (node.frame.recordReads op.registers))).frame := by
  obtain ⟨_, returned, route, _, node_eq⟩ := op.route_execute machine node before
  obtain ⟨widens, notConstruct⟩ := returned_of_gaveUp route gaveUp
  have ordinary : op.method.signature ≠ Signature.objectInit := by
    intro constructs
    exact notConstruct (strategy_planFor_of_objectInit constructs)
  rw [node_eq, widens, planFor_of_ordinary ordinary]
  rfl

theorem overwrites_recordReads (policy : Policy) (caller : Frame) (numbers : List Nat)
    (register : Register) :
    op.Overwrites policy types (caller.recordReads numbers) register ↔
      op.Overwrites policy types caller register := by
  cases register with
  | index number => simp only [Overwrites, wideningTypes, Frame.peek, Frame.get?_recordReads]
  | result => exact Iff.rfl
  | returned => exact Iff.rfl

/-- The references that are left after a call that is given up on are those that were
there before in registers that it does not overwrite. -/
theorem handle?_peek_of_gaveUp
    (gaveUp : ((op.execute machine node).run before).1.1.outcome.gaveUp = true)
    {register : Register} (notReturned : register ≠ .returned) (handle : Handle) :
    (((op.execute machine node).run before).1.2.frame.peek register).handle? =
        some handle ↔
      ¬ op.Overwrites machine.policy (op.argumentTypes before node.frame) node.frame
          register ∧
        (node.frame.peek register).handle? = some handle := by
  rw [frame_execute_of_gaveUp gaveUp, handle?_peek_widened register notReturned,
    Node.frame_withFrame, overwrites_recordReads]
  simp only [Frame.peek, Frame.get?_recordReads]

/-- A register that held a reference and is overwritten is unknown afterwards. -/
theorem isUnknown_peek_of_gaveUp {number : Nat} {handle : Handle}
    (gaveUp : ((op.execute machine node).run before).1.1.outcome.gaveUp = true)
    (refers : (node.frame.peek (.index number)).handle? = some handle)
    (widens : op.Overwrites machine.policy (op.argumentTypes before node.frame) node.frame
      (.index number)) :
    (((op.execute machine node).run before).1.2.frame.peek (.index number)).isUnknown =
      true := by
  obtain ⟨item, held, _⟩ :=
    Option.bind_eq_some_iff.mp (Frame.handle?_peek_eq_some.mp refers)
  rw [← Frame.get?_recordReads node.frame op.registers] at held
  have present : (node.withFrame (node.frame.recordReads op.registers)).frame.has
      (.index number) = true :=
    Frame.has_of_get? held
  rw [frame_execute_of_gaveUp gaveUp]
  apply isUnknown_peek_widened present
  rw [Node.frame_withFrame]
  exact (overwrites_recordReads machine.policy node.frame op.registers _).mpr widens

/-- When a call is given up on and an argument register that held a reference is widened,
that register is unknown afterwards.  But no numbered register and no result slot is left
with a reference to the same object exactly if all those that had one were overwritten
themselves: other aliases of the argument are not looked for. -/
theorem aliases_widened_iff (machine : Machine σ) (op : InvokeOp) (node : Node)
    (before : Analysis σ) {number : Nat} {handle : Handle}
    (gaveUp : ((op.execute machine node).run before).1.1.outcome.gaveUp = true)
    (refers : (node.frame.peek (.index number)).handle? = some handle)
    (widens : op.Overwrites machine.policy (op.argumentTypes before node.frame) node.frame
      (.index number)) :
    let run := (op.execute machine node).run before
    let heap := run.2.heaps.get node.activation.heap
    (run.1.2.frame.peek (.index number)).isUnknown = true ∧
      ((∀ register ≠ .returned, ∀ other,
          (run.1.2.frame.peek register).handle? = some other →
            heap.sameIdentity other handle = false) ↔
        ∀ register ≠ .returned, ∀ other,
          (node.frame.peek register).handle? = some other →
          heap.sameIdentity other handle = true →
          op.Overwrites machine.policy (op.argumentTypes before node.frame) node.frame
            register) := by
  intro run heap
  constructor
  · exact isUnknown_peek_of_gaveUp gaveUp refers widens
  constructor
  · intro forgotten register notReturned other held same
    by_cases overwritten : op.Overwrites machine.policy
      (op.argumentTypes before node.frame) node.frame register
    · exact overwritten
    have left : (run.1.2.frame.peek register).handle? = some other :=
      (handle?_peek_of_gaveUp gaveUp notReturned other).mpr ⟨overwritten, held⟩
    have apart := forgotten register notReturned other left
    rw [same] at apart
    cases apart
  · intro covered register notReturned other left
    obtain ⟨kept, held⟩ := (handle?_peek_of_gaveUp gaveUp notReturned other).mp left
    cases same : heap.sameIdentity other handle with
    | false => rfl
    | true =>
        have overwritten := covered register notReturned other held same
        exact absurd overwritten kept

/-- A call of a static method without a body on the first register. -/
def fillBox : InvokeOp where
  address := 0
  kind := { family := .static }
  method :=
    { signature := "Lapp/Box;->fill(Lapp/Box;)V"
      className := "Lapp/Box;"
      name := "fill"
      descriptor := "fill(Lapp/Box;)V"
      declaredTypes := ["Lapp/Box;"]
      returnType := TypeName.void
      flags := AccessFlags.isStatic }
  registers := [0]
  length_registers := by decide

/-- A heap with one object of a known class. -/
def boxed : Analysis Unit where
  registry := Registry.empty.register { name := "Lapp/Box;" }
  heaps := HeapStore.empty.set 0 { slots := #[.object "Lapp/Box;"], capacity := 2 }
  own := ()

/-- A node with the object in its first register and an alias in its second. -/
def boxedNode : Node where
  address := 0
  activation :=
    { method := fillBox.method
      frame :=
        ((Frame.blank 2 0).poke (.index 0) (TypedValue.reference 0 "Lapp/Box;")).poke
          (.index 1) (TypedValue.reference 0 "Lapp/Box;")
      heap := 0 }

theorem overwrites_fillBox :
    fillBox.Overwrites ({} : Machine Unit).policy
      (fillBox.argumentTypes boxed boxedNode.frame) boxedNode.frame (.index 0) := by
  rw [Overwrites]
  decide

/-- The first register is unknown after the call, and the alias is not. -/
theorem aliases_widened_fillBox :
    let machine : Machine Unit := {}
    let run := (fillBox.execute machine boxedNode).run boxed
    let heap := run.2.heaps.get boxedNode.activation.heap
    run.1.1.outcome.gaveUp = true ∧
      (boxedNode.frame.peek (.index 0)).handle? = some 0 ∧
      fillBox.Overwrites machine.policy (fillBox.argumentTypes boxed boxedNode.frame)
        boxedNode.frame (.index 0) ∧
      (run.1.2.frame.peek (.index 0)).isUnknown = true ∧
        ((∀ register ≠ .returned, ∀ other,
            (run.1.2.frame.peek register).handle? = some other →
              heap.sameIdentity other 0 = false) ↔
          ∀ register ≠ .returned, ∀ other,
            (boxedNode.frame.peek register).handle? = some other →
            heap.sameIdentity other 0 = true →
            fillBox.Overwrites machine.policy (fillBox.argumentTypes boxed boxedNode.frame)
              boxedNode.frame register) :=
  have gaveUp : ((fillBox.execute ({} : Machine Unit) boxedNode).run
      boxed).1.1.outcome.gaveUp = true := by decide
  have refers : (boxedNode.frame.peek (.index 0)).handle? = some 0 := by decide
  have widens := overwrites_fillBox
  ⟨gaveUp, refers, widens,
    aliases_widened_iff {} fillBox boxedNode boxed gaveUp refers widens⟩

/-- Giving up on a call does not make all aliases of a widened argument unknown. -/
theorem alias_survives_fillBox :
    ¬ ∀ (machine : Machine Unit) (op : InvokeOp) (node : Node) (before : Analysis Unit)
        (number : Nat) (handle : Handle),
      let run := (op.execute machine node).run before
      run.1.1.outcome.gaveUp = true →
      (node.frame.peek (.index number)).handle? = some handle →
      op.Overwrites machine.policy (op.argumentTypes before node.frame) node.frame
        (.index number) →
      ∀ register ≠ .returned, ∀ other,
        (run.1.2.frame.peek register).handle? = some other →
          (run.2.heaps.get node.activation.heap).sameIdentity other handle = false := by
  intro forgets
  have forgotten := forgets {} fillBox boxedNode boxed 0 0 (by decide) (by decide)
    overwrites_fillBox (.index 1) (by decide) 0 (by decide)
  have same : (((fillBox.execute ({} : Machine Unit) boxedNode).run boxed).2.heaps.get
      boxedNode.activation.heap).sameIdentity 0 0 = true := by decide
  rw [same] at forgotten
  cases forgotten

end InvokeOp

end Callsite
