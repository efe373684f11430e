import Callsite.Proofs.Invoke.Footprint

/-!
# What giving up on a call does

Giving up goes through the arguments one after another and looks at registers that it may
have widened before.  What it finds there is no longer the caller's item, but an unknown one
fares as that item would have, so the outcome can be told from the frame before the call: a
register is left unknown by the last place that clobbers it, and nothing else changes but the
result (`InvokeOp.effect_of_gaveUp`).
-/

namespace Callsite

variable {σ : Type}

namespace GiveUp

variable {policy : Policy} {initializing : Bool} {item : TypedValue} {number : Nat}
  {type : TypeName} {arguments : List (Nat × TypeName)}

/-- The last type for which a register is widened is that of the last argument in it that
is. -/
theorem exists_split_of_getLast?_wideningTypes
    (last : (wideningTypes policy initializing item number arguments).getLast? = some type) :
    ∃ earlier later, arguments = earlier ++ (number, type) :: later ∧
      ArgumentFate.of policy initializing item type = .widened ∧
      ∀ other, (number, other) ∈ later →
        ArgumentFate.of policy initializing item other ≠ .widened := by
  rw [wideningTypes, List.getLast?_filterMap] at last
  obtain ⟨after, ⟨passed, widest⟩, before, reversed, chosen, none⟩ :=
    List.findSome?_eq_some_iff.mp last
  simp only at chosen
  split at chosen
  · next widens =>
      cases chosen
      obtain ⟨rfl, widened⟩ := widens
      refine ⟨before.reverse, after.reverse, ?_, widened, ?_⟩
      · rw [← List.reverse_inj, reversed]
        simp
      · intro other member again
        have notChosen := none (passed, other) (List.mem_reverse.mp member)
        simp [again] at notChosen
  · cases chosen

theorem wideningTypes_eq_nil_iff :
    wideningTypes policy initializing item number arguments = [] ↔
      ∀ type, (number, type) ∈ arguments →
        ArgumentFate.of policy initializing item type ≠ .widened := by
  rw [wideningTypes, List.filterMap_eq_nil_iff]
  constructor
  · intro none type member widened
    have notChosen := none (number, type) member
    simp [widened] at notChosen
  · rintro none ⟨passed, type⟩ member
    simp only [ite_eq_right_iff]
    rintro ⟨rfl, widened⟩
    exact absurd widened (none type member)

/-- Widening the arguments does not count as writing them. -/
theorem assigned_widenArguments (arguments : List (Nat × TypeName)) (frame : Frame) :
    (widenArguments policy initializing arguments frame).1.assigned = frame.assigned := by
  induction arguments generalizing frame with
  | nil => rfl
  | cons argument rest ih =>
      obtain ⟨number, type⟩ := argument
      simp only [widenArguments]
      rw [ih]
      cases ArgumentFate.of policy initializing (frame.peek (.index number)) type <;> rfl

end GiveUp

namespace InvokeOp

variable {machine : Machine σ} {op : InvokeOp} {types : List TypeName} {node : Node}
  {before : Analysis σ} {policy : Policy} {item : TypedValue} {type : TypeName}

/-- An argument may have been changed by a call of which nothing is known: it is not `null`,
and a constructor runs or values of neither its own type nor the type that it is passed as are
immutable. -/
def Clobbers (op : InvokeOp) (policy : Policy) (item : TypedValue) (type : TypeName) : Prop :=
  item.isNull = false ∧ (Signature.isConstructor op.method.signature = true ∨
    policy.isImmutable type = false ∧ policy.isImmutable item.type = false)

/-- The types that never change are immutable by any policy. -/
theorem clobbers_iff : op.Clobbers policy item type ↔
    ArgumentFate.of policy (Signature.isConstructor op.method.signature) item type =
      .widened := by
  have own : (item.isImmutable || policy.isImmutable item.type) =
      policy.isImmutable item.type := by
    simp [Policy.isImmutable, TypedValue.isImmutable]
  rw [Clobbers, ArgumentFate.of, own]
  cases item.isNull <;> cases Signature.isConstructor op.method.signature <;>
    cases policy.isImmutable type <;> cases policy.isImmutable item.type <;> simp

/-- Outside constructors `null` and immutable items are spared. -/
theorem not_clobbers (ordinary : Signature.isConstructor op.method.signature = false)
    (spared : item.isNull = true ∨ policy.isImmutable item.type = true) :
    ¬ op.Clobbers policy item type := by
  rintro ⟨notNull, constructs | ⟨_, mutable⟩⟩
  · rw [ordinary] at constructs
    cases constructs
  · rcases spared with null | immutable
    · rw [notNull] at null
      cases null
    · rw [mutable] at immutable
      cases immutable

/-- The register of each argument, with the type that its item is passed as. -/
def reconciled (op : InvokeOp) (catalog : Catalog) (caller : Frame) : List (Nat × TypeName) :=
  (op.method.parameterTypes.zip op.registers).map fun (declared, number) =>
    (number, catalog.reconcile (caller.peek (.index number)) declared)

theorem zip_argumentTypes (op : InvokeOp) (before : Analysis σ) (caller : Frame) :
    op.registers.zip (op.argumentTypes before caller) =
      op.reconciled before.registry.catalog caller := by
  let declared := op.method.parameterTypes.zip op.registers
  have registers : declared.map Prod.snd = op.registers :=
    List.map_snd_zip (Nat.le_of_eq op.length_registers)
  calc op.registers.zip (op.argumentTypes before caller)
    _ = (declared.map Prod.snd).zip (op.argumentTypes before caller) := by rw [registers]
    _ = op.reconciled before.registry.catalog caller := List.zip_map'

theorem wideningTypes_eq_nil_iff_clobbers {caller : Frame} {number : Nat} :
    op.wideningTypes policy types caller number = [] ↔
      ∀ type, (number, type) ∈ op.registers.zip types →
        ¬ op.Clobbers policy (caller.peek (.index number)) type := by
  simp only [wideningTypes, GiveUp.wideningTypes_eq_nil_iff, clobbers_iff, ne_eq]

/-- Of the registers only the result slot counts as written. -/
theorem mem_assigned_widened {register : Register} :
    register ∈ (op.widened machine types node).frame.assigned ↔
      register ∈ node.frame.assigned ∨
        register = .result ∧ op.method.returnsVoid = false := by
  rw [widened, Node.frame_withFrame]
  simp only [GiveUp.widen]
  cases isVoid : op.method.returnsVoid with
  | true =>
      rw [if_pos rfl, GiveUp.assigned_widenArguments]
      simp
  | false =>
      rw [if_neg Bool.false_ne_true, Frame.mem_assigned_assign,
        GiveUp.assigned_widenArguments]
      simp [Frame.has, or_comm]

/-- A register that some argument clobbers is left unknown by the last one that does. -/
theorem get?_widened_of_clobbers {number : Nat}
    (present : node.frame.has (.index number) = true)
    (clobbered : ∃ type, (number, type) ∈ op.registers.zip types ∧
      op.Clobbers machine.policy (node.frame.peek (.index number)) type) :
    ∃ earlier type later, op.registers.zip types = earlier ++ (number, type) :: later ∧
      op.Clobbers machine.policy (node.frame.peek (.index number)) type ∧
      (∀ other, (number, other) ∈ later →
        ¬ op.Clobbers machine.policy (node.frame.peek (.index number)) other) ∧
      (op.widened machine types node).frame.get? (.index number) =
        some (TypedValue.unknown type) := by
  have left := get?_widened_index machine op types present
  cases last : (op.wideningTypes machine.policy types node.frame number).getLast? with
  | none =>
      obtain ⟨type, passed, clobbers⟩ := clobbered
      have none := wideningTypes_eq_nil_iff_clobbers.mp (List.getLast?_eq_none_iff.mp last)
      exact absurd clobbers (none type passed)
  | some type =>
      rw [last] at left
      obtain ⟨earlier, later, split, widened, none⟩ :=
        GiveUp.exists_split_of_getLast?_wideningTypes last
      refine ⟨earlier, type, later, split, clobbers_iff.mpr widened, ?_, left⟩
      intro other member again
      exact none other member (clobbers_iff.mp again)

/-- A register that no argument clobbers keeps its item. -/
theorem get?_widened_of_not_clobbers {number : Nat}
    (notClobbered : ¬ (node.frame.has (.index number) = true ∧
      ∃ type, (number, type) ∈ op.registers.zip types ∧
        op.Clobbers machine.policy (node.frame.peek (.index number)) type)) :
    (op.widened machine types node).frame.get? (.index number) =
      node.frame.get? (.index number) := by
  cases present : node.frame.has (.index number) with
  | false =>
      rw [Frame.get?_of_not_has present,
        Frame.get?_of_not_has ((has_widened _).trans present)]
  | true =>
      apply get?_widened_of_not_overwrites
      rw [Overwrites, not_not, wideningTypes_eq_nil_iff_clobbers]
      intro type passed clobbers
      exact notClobbered ⟨present, type, passed, clobbers⟩

/-- The exact effect of giving up on a call, told from the caller's frame before it.  A
register of the file becomes unknown of the type of the last argument that clobbers it, and
keeps its item if there is none, so that only constructors clobber immutable items and nothing
clobbers `null`.  Of the slots only that of the result changes, and it alone counts as
written, if the method returns anything. -/
theorem effect_of_gaveUp (machine : Machine σ) (op : InvokeOp) (node : Node)
    (before : Analysis σ)
    (gaveUp : ((op.execute machine node).run before).1.1.outcome.gaveUp = true) :
    let caller := node.frame
    let after := ((op.execute machine node).run before).1.2.frame
    let arguments := op.reconciled before.registry.catalog caller
    (∀ number, caller.has (.index number) = true →
      (∃ type, (number, type) ∈ arguments ∧
        op.Clobbers machine.policy (caller.peek (.index number)) type) →
      ∃ earlier type later, arguments = earlier ++ (number, type) :: later ∧
        op.Clobbers machine.policy (caller.peek (.index number)) type ∧
        (∀ other, (number, other) ∈ later →
          ¬ op.Clobbers machine.policy (caller.peek (.index number)) other) ∧
        after.get? (.index number) = some (TypedValue.unknown type)) ∧
    (∀ number, ¬ (caller.has (.index number) = true ∧
        ∃ type, (number, type) ∈ arguments ∧
          op.Clobbers machine.policy (caller.peek (.index number)) type) →
      after.get? (.index number) = caller.get? (.index number)) ∧
    (Signature.isConstructor op.method.signature = false → ∀ number,
      (caller.peek (.index number)).isNull = true ∨
        machine.policy.isImmutable (caller.peek (.index number)).type = true →
      after.get? (.index number) = caller.get? (.index number)) ∧
    after.get? .result = (if op.method.returnsVoid then caller.get? .result
      else some (TypedValue.unknown op.method.returnType)) ∧
    after.get? .returned = caller.get? .returned ∧
    ∀ register, register ∈ after.assigned ↔
      register ∈ caller.assigned ∨ register = .result ∧ op.method.returnsVoid = false := by
  intro caller after arguments
  have widened : after = (op.widened machine (op.argumentTypes before node.frame)
      (node.withFrame (node.frame.recordReads op.registers))).frame :=
    frame_execute_of_gaveUp gaveUp
  have listed : op.registers.zip (op.argumentTypes before node.frame) = arguments :=
    op.zip_argumentTypes before node.frame
  -- Recording the reads of the arguments changes nothing that is looked at below.
  have reads (register : Register) : (node.withFrame
      (node.frame.recordReads op.registers)).frame.get? register = caller.get? register :=
    Frame.get?_recordReads node.frame op.registers register
  have peeks (register : Register) : (node.withFrame
      (node.frame.recordReads op.registers)).frame.peek register = caller.peek register := by
    rw [Frame.peek, Frame.peek, reads]
  have present (register : Register) : (node.withFrame
      (node.frame.recordReads op.registers)).frame.has register = caller.has register :=
    Frame.has_recordReads node.frame op.registers register
  have kept (number : Nat) (notClobbered : ¬ (caller.has (.index number) = true ∧
      ∃ type, (number, type) ∈ arguments ∧
        op.Clobbers machine.policy (caller.peek (.index number)) type)) :
      after.get? (.index number) = caller.get? (.index number) := by
    rw [widened, ← reads]
    apply get?_widened_of_not_clobbers
    rwa [present, peeks, listed]
  refine ⟨?_, kept, ?_, ?_, ?_, ?_⟩
  · intro number inFile clobbered
    rw [widened, ← listed, ← peeks]
    apply get?_widened_of_clobbers
    · rwa [present]
    · rwa [peeks, listed]
  · intro ordinary number spared
    apply kept
    rintro ⟨_, type, _, clobbers⟩
    exact not_clobbers ordinary spared clobbers
  · rw [widened, get?_widened_result, reads]
  · rw [widened, get?_widened_returned, reads]
  · intro register
    rw [widened, mem_assigned_widened, Node.frame_withFrame, Frame.assigned_recordReads]

/-- A call of a static method without a body that is passed the first register in three
places. -/
def mixBox : InvokeOp where
  address := 0
  kind := { family := .static }
  method :=
    { signature := "Lapp/Box;->mix(Lapp/Box;Lapp/Crate;Ljava/lang/String;)Lapp/Box;"
      className := "Lapp/Box;"
      name := "mix"
      descriptor := "mix(Lapp/Box;Lapp/Crate;Ljava/lang/String;)Lapp/Box;"
      declaredTypes := ["Lapp/Box;", "Lapp/Crate;", TypeName.string]
      returnType := "Lapp/Box;"
      flags := AccessFlags.isStatic }
  registers := [0, 0, 0]
  length_registers := by decide

/-- The last place is declared to take a string, which cannot be changed, so the place before
it decides. -/
theorem effect_of_gaveUp_mixBox :
    let machine : Machine Unit := {}
    let caller := boxedNode.frame
    let after := ((mixBox.execute machine boxedNode).run boxed).1.2.frame
    let arguments := mixBox.reconciled boxed.registry.catalog caller
    (((mixBox.execute machine boxedNode).run boxed).1.1.outcome.gaveUp = true ∧
      after.get? (.index 0) = some (TypedValue.unknown "Lapp/Crate;")) ∧
    (∀ number, caller.has (.index number) = true →
      (∃ type, (number, type) ∈ arguments ∧
        mixBox.Clobbers machine.policy (caller.peek (.index number)) type) →
      ∃ earlier type later, arguments = earlier ++ (number, type) :: later ∧
        mixBox.Clobbers machine.policy (caller.peek (.index number)) type ∧
        (∀ other, (number, other) ∈ later →
          ¬ mixBox.Clobbers machine.policy (caller.peek (.index number)) other) ∧
        after.get? (.index number) = some (TypedValue.unknown type)) ∧
    (∀ number, ¬ (caller.has (.index number) = true ∧
        ∃ type, (number, type) ∈ arguments ∧
          mixBox.Clobbers machine.policy (caller.peek (.index number)) type) →
      after.get? (.index number) = caller.get? (.index number)) ∧
    (Signature.isConstructor mixBox.method.signature = false → ∀ number,
      (caller.peek (.index number)).isNull = true ∨
        machine.policy.isImmutable (caller.peek (.index number)).type = true →
      after.get? (.index number) = caller.get? (.index number)) ∧
    after.get? .result = (if mixBox.method.returnsVoid then caller.get? .result
      else some (TypedValue.unknown mixBox.method.returnType)) ∧
    after.get? .returned = caller.get? .returned ∧
    ∀ register, register ∈ after.assigned ↔
      register ∈ caller.assigned ∨
        register = .result ∧ mixBox.method.returnsVoid = false := by
  intro machine caller after arguments
  have gaveUp : ((mixBox.execute machine boxedNode).run boxed).1.1.outcome.gaveUp = true := by
    decide
  have crate : after.get? (.index 0) = some (TypedValue.unknown "Lapp/Crate;") := by
    decide +kernel
  exact ⟨⟨gaveUp, crate⟩, effect_of_gaveUp machine mixBox boxedNode boxed gaveUp⟩

end InvokeOp

end Callsite
