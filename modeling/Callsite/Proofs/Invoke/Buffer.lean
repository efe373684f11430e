import Callsite.Proofs.Emulation.Buffer
import Callsite.Proofs.Frame.Substitution
import Callsite.Proofs.Invoke.Emulated

/-!
# Calls on character buffers

A call of an emulated method of character buffers, on a machine that emulates them, has
the effect on the buffer in the caller's heap that its arguments tell.  It completes, what
it results in is in the result slot, and the caller's other registers refer to the objects
that they referred to, also where a new buffer takes the place of another one.
-/

namespace Callsite

open JavaLang (BufferMethod EmulatedCall EmulatedReturn)

variable {σ : Type}

namespace Frame

variable {before middle after : Frame} {heap merged : Heap} {handle : Handle}

/-- The numbered registers and the return slot refer to the objects that they referred to,
by whatever handles. -/
def KeepsObjects (before after : Frame) (heap merged : Heap) : Prop :=
  ∀ register ≠ .result, ∀ handle, (before.peek register).handle? = some handle →
    heap.Resolves handle →
    ∃ final, (after.peek register).handle? = some final ∧
      merged.sameIdentity final handle = true

/-- Registers that keep their handles keep their objects. -/
theorem keepsObjects_of_handle? (edits : heap.Edits merged)
    (same : ∀ register ≠ .result, (after.peek register).handle? =
      (before.peek register).handle?) : before.KeepsObjects after heap merged := by
  intro register notResult handle refers resolves
  refine ⟨handle, ?_, Heap.sameIdentity_self (edits.resolves resolves)⟩
  rw [same register notResult]
  exact refers

theorem KeepsObjects.trans {later : Heap} (first : before.KeepsObjects middle heap merged)
    (second : middle.KeepsObjects after merged later) (edits : merged.Edits later) :
    before.KeepsObjects after heap later := by
  intro register notResult handle refers resolves
  obtain ⟨between, held, same⟩ := first register notResult handle refers resolves
  obtain ⟨slot, resolved, _⟩ := Heap.sameIdentity_iff.mp same
  obtain ⟨final, heldLater, sameLater⟩ :=
    second register notResult between held ⟨slot, resolved⟩
  refine ⟨final, heldLater, ?_⟩
  exact Heap.sameIdentity_trans sameLater (edits.sameIdentity same)

theorem peek_assign_returned (item : TypedValue) :
    (before.assign .returned item).peek .returned = item :=
  peek_assign_self rfl

/-- A parameter that holds a reference can be overwritten. -/
theorem peekParameter_assignParameter {offset : Nat} {item : TypedValue}
    (refers : (before.peekParameter offset).handle? = some handle) :
    (before.assignParameter offset item).peekParameter offset = item := by
  rw [assignParameter, peekParameter, parameterStart_assign]
  exact peek_assign_self (has_of_handle? refers)

/-- The return slot is no parameter. -/
theorem peekParameter_assign_returned {offset : Nat} (item : TypedValue) :
    (before.assign .returned item).peekParameter offset = before.peekParameter offset := by
  rw [peekParameter, parameterStart_assign, peek, get?_assign, if_neg (by simp)]
  rfl

/-- A register that is given the handle that it has keeps it. -/
theorem handle?_peek_assign {number : Nat} {item : TypedValue}
    (refers : (before.peek (.index number)).handle? = some handle)
    (same : item.handle? = some handle) (register : Register) :
    ((before.assign (.index number) item).peek register).handle? =
      (before.peek register).handle? := by
  rw [peek, get?_assign]
  split
  · next written =>
      rw [← written.1, refers]
      exact same
  · rfl

end Frame

namespace Heap

variable {heap : Heap} {receiver : Handle} {effect : BufferEffect}

theorem typeOf_of_bufferPlace (place : heap.BufferPlace receiver) :
    heap.typeOf receiver = .ok TypeName.stringBuilder := by
  rcases place with ⟨content, found⟩ | found
  · simp only [typeOf, found, Instance.type?]
  · simp only [typeOf, found, Instance.type?]

theorem ReadyFor.bufferPlace (ready : heap.ReadyFor receiver effect) :
    heap.BufferPlace receiver :=
  ready.place.imp_right And.right

end Heap

namespace InvokeOp

/-- The call names an emulated method of buffers, whatever its modifiers and its body. -/
def Names (op : InvokeOp) (method : BufferMethod) : Prop :=
  ∃ flags parsed body, AccessFlags.contains flags AccessFlags.isStatic = false ∧
    Method.parse method.emulated.signature flags = .ok parsed ∧
    op.method = { parsed with body }

/-- A call has an effect on the buffer of a handle, by what the caller's registers and the
heap hold. -/
structure Asks (op : InvokeOp) (heap : Heap) (caller : Frame) (receiver : Handle)
    (effect : BufferEffect) : Prop where
  ready : heap.ReadyFor receiver effect
  call : ∃ method number others, op.Names method ∧ op.registers = number :: others ∧
    (caller.peek (.index number)).handle? = some receiver ∧
    BufferMethod.Means heap method (others.map fun other => caller.peek (.index other)) effect

variable {machine : Machine σ} {op : InvokeOp} {method : BufferMethod} {node : Node}
  {before : Analysis σ} {caller : Frame} {receiver : Handle} {effect : BufferEffect}
  {number : Nat} {heap : Heap}

/-- What is known of a method that a call names. -/
structure Named (op : InvokeOp) (method : BufferMethod) : Prop where
  signature : op.method.signature = method.emulated.signature
  hasReceiver : op.method.isStatic = false
  parameterTypes : op.method.parameterTypes = TypeName.stringBuilder :: method.declaredTypes
  returnType : op.method.returnType = method.returnType

theorem Names.named (names : op.Names method) : op.Named method := by
  obtain ⟨flags, parsed, body, notStatic, parse, same⟩ := names
  rw [method.parse_signature] at parse
  cases parse
  have hasReceiver : op.method.isStatic = false := by
    rw [same]
    simp only [Method.isStatic, BufferMethod.declared, Method.flagsFor]
    split
    · rw [AccessFlags.contains_isStatic_union_isConstructor]
      exact notStatic
    · exact notStatic
  constructor
  case signature => rw [same, BufferMethod.declared]
  case hasReceiver => exact hasReceiver
  case parameterTypes =>
    rw [Method.parameterTypes, hasReceiver, same]
    rfl
  case returnType => rw [same, BufferMethod.declared]

/-- A call of the method as its signature has it names it. -/
theorem names_of_declared {flags : AccessFlags}
    (notStatic : AccessFlags.contains flags AccessFlags.isStatic = false)
    (same : op.method = method.declared flags) : op.Names method := by
  refine ⟨flags, method.declared flags, none, notStatic, method.parse_signature flags, ?_⟩
  rw [same]
  rfl

namespace Named

variable (named : op.Named method)
include named

theorem ordinary : op.method.signature ≠ Signature.objectInit := by
  rw [named.signature]
  cases method <;> decide

theorem narrow : ∀ type ∈ op.method.parameterTypes, TypeName.isWide type = false := by
  intro type member
  rw [named.parameterTypes] at member
  exact BufferMethod.isWide_of_mem_declaredTypes member

end Named

/-- The class of buffers is not known, so that no class overrides the method. -/
theorem undispatched (first : op.firstRegister? = some number)
    (refers : (node.frame.peek (.index number)).handle? = some receiver)
    (place : (before.heaps.get node.activation.heap).BufferPlace receiver)
    (unregistered : before.registry.catalog.find? TypeName.stringBuilder = none) :
    op.targetFor before node = op.method := by
  have value : (node.frame.peek (.index number)).value = .reference receiver :=
    Value.handle?_eq_some.mp refers
  have unknown : before.registry.catalog.resolve TypeName.stringBuilder =
      .error (.typeNotFound TypeName.stringBuilder) := by
    rw [Catalog.resolve, unregistered]
    rfl
  have noOverride : op.override? before.registry.catalog
      (before.heaps.get node.activation.heap) node.frame = none := by
    simp only [override?, first, Heap.dispatchType?, value, Heap.typeOf_of_bufferPlace place,
      Except.toOption, unknown, Option.bind_eq_bind, Option.bind_some, Option.bind_none]
  rw [targetFor, target, noOverride]
  split
  · rfl
  · rfl

/-! ## Returning to the caller -/

/-- A receiver that is the same object for the callee is written back by its handle. -/
theorem exists_received_of_same {callee : Frame} {after : Heap}
    (hasReceiver : op.method.isStatic = false) (first : op.firstRegister? = some number)
    (refers : (caller.peek (.index number)).handle? = some receiver)
    (left : (callee.peekParameter 0).handle? = some receiver)
    (edits : heap.Edits after) (resolves : heap.Resolves receiver) :
    ∃ frame, op.received machine after caller callee = .ok (frame, after) ∧
      caller.KeepsObjects frame heap after := by
  have same : after.isReplaced (caller.peek (.index number)) (callee.peekParameter 0) = false := by
    simp only [Heap.isReplaced, refers, left,
      Heap.sameIdentity_self (edits.resolves resolves), Bool.not_true]
  cases immutable : machine.policy.isImmutable (callee.peekParameter 0).type with
  | true =>
      refine ⟨caller, ?_, Frame.keepsObjects_of_handle? edits fun _ _ => rfl⟩
      simp only [received, hasReceiver, returnReceiver, first, same, immutable]
      rfl
  | false =>
      refine ⟨caller.assign (.index number) (callee.peekParameter 0), ?_,
        Frame.keepsObjects_of_handle? edits fun register _ =>
          Frame.handle?_peek_assign refers left register⟩
      simp only [received, hasReceiver, returnReceiver, first, same, immutable]
      rfl

/-- A receiver that is another object for the callee takes the place of the old one. -/
theorem exists_received_of_new {callee : Frame} {grown : Heap} {new : Handle}
    {inst : Instance} (isLive : inst.isLive = true)
    (hasReceiver : op.method.isStatic = false) (first : op.firstRegister? = some number)
    (refers : (caller.peek (.index number)).handle? = some receiver)
    (left : (callee.peekParameter 0).handle? = some new)
    (resolves : heap.Resolves receiver)
    (allocated : heap.alloc inst = .ok (new, grown)) :
    ∃ frame merged, op.received machine grown caller callee = .ok (frame, merged) ∧
      grown.forward receiver new = .ok merged ∧ caller.KeepsObjects frame heap merged := by
  have isNew : new ≠ receiver := by
    rintro rfl
    exact Heap.not_resolves_of_alloc allocated resolves
  have grows : heap.Edits grown := .single (.alloc isLive allocated)
  have created : grown.Resolves new := ⟨new, Heap.resolve_alloc_self isLive allocated⟩
  have apart : grown.sameIdentity receiver new = false := by
    obtain ⟨slot, resolved⟩ := resolves
    have elsewhere := ((Heap.resolve_alloc_iff isLive allocated).mp resolved).2
    rw [Heap.sameIdentity, Heap.resolve_alloc allocated resolved,
      Heap.resolve_alloc_self isLive allocated]
    exact beq_false_of_ne elsewhere
  obtain ⟨frame, merged, assigned, forwarded⟩ := Frame.exists_substitution refers left isNew
    (grows.resolves resolves) created
  have substituted := Frame.substituted_assignIdentity refers left assigned
  refine ⟨frame, merged, ?_, forwarded, ?_⟩
  · simp only [received, hasReceiver, returnReceiver, first, Heap.isReplaced, refers, left,
      apart]
    exact assigned
  · have edits : heap.Edits merged := grows.tail (.forward forwarded)
    have replaced : caller.peek (.index number) ≠ callee.peekParameter 0 := by
      intro same
      rw [same, left] at refers
      cases refers
      exact isNew rfl
    -- The registers that held the old handle hold the new one, which the old one leads to
    -- now.  The others are left alone.
    intro register notResult handle held handleResolves
    by_cases holds : caller.Holds register receiver
    · have sameHandle : handle = receiver := by
        have found := Frame.handle?_peek_eq_some.mp held
        rw [holds.2] at found
        exact (Option.some.inj found).symm
      refine ⟨new, ?_, ?_⟩
      · rw [Frame.peek_of_get? (substituted.aliases replaced register holds)]
        exact left
      · rw [sameHandle]
        apply Heap.sameIdentity_symm
        apply substituted.merge.sameIdentity
        exact Heap.sameIdentity_self (grows.resolves resolves)
    · refine ⟨handle, ?_, Heap.sameIdentity_self (edits.resolves handleResolves)⟩
      rw [Frame.peek, substituted.kept register (.inl holds)]
      exact held

/-- Whatever a handler did to a buffer, the caller gets to see it. -/
theorem exists_received (machine : Machine σ) {call : EmulatedCall} {returned : EmulatedReturn}
    (effects : call.Effects receiver effect returned)
    (place : call.heap.BufferPlace receiver) (argument : (call.argument 0).handle? = some receiver)
    (hasReceiver : op.method.isStatic = false) (first : op.firstRegister? = some number)
    (refers : (caller.peek (.index number)).handle? = some receiver) :
    ∃ frame made merged,
      op.received machine returned.heap caller returned.frame = .ok (frame, merged) ∧
      call.heap.BufferEdit receiver effect made merged ∧
      caller.KeepsObjects frame call.heap merged ∧
      ∀ handle, made = some handle →
        (returned.frame.peek .returned).handle? = some handle := by
  rw [EmulatedCall.argument_zero] at argument
  cases effects with
  | @reset text new grown allocated =>
      have left : ((call.frame.assignParameter 0
          (TypedValue.reference new TypeName.stringBuilder)).peekParameter 0).handle? =
            some new := by
        rw [Frame.peekParameter_assignParameter argument]
        rfl
      obtain ⟨frame, merged, received, forwarded, keeps⟩ :=
        exists_received_of_new rfl hasReceiver first refers left place.resolves allocated
      exact ⟨frame, none, merged, received, .reset place allocated forwarded, keeps, nofun⟩
  | @extend text content after found replaced =>
      have edit : call.heap.BufferEdit receiver (.extend text) (some receiver) after :=
        .extend found replaced
      obtain ⟨frame, received, keeps⟩ := exists_received_of_same hasReceiver first refers
        ((Frame.peekParameter_assign_returned _).symm ▸ argument) edit.edits place.resolves
      refine ⟨frame, _, after, received, edit, keeps, ?_⟩
      intro handle result
      cases result
      refine (congrArg TypedValue.handle? (Frame.peek_assign_returned _)).trans ?_
      rw [EmulatedCall.argument_zero]
      exact argument
  | @read content copy grown found allocated =>
      have edit : call.heap.BufferEdit receiver .read (some copy) grown :=
        .read found allocated
      obtain ⟨frame, received, keeps⟩ := exists_received_of_same hasReceiver first refers
        ((Frame.peekParameter_assign_returned _).symm ▸ argument) edit.edits place.resolves
      refine ⟨frame, _, grown, received, edit, keeps, ?_⟩
      intro handle result
      cases result
      exact congrArg TypedValue.handle? (Frame.peek_assign_returned _)

/-- What is returned is in the result slot then. -/
theorem peek_result_withReturned {callee : Frame} (returns : op.method.returnsVoid = false) :
    (op.withReturned caller callee).peek .result = callee.peek .returned := by
  have present : caller.has .result = true := rfl
  rw [withReturned, returns]
  exact Frame.peek_assign_self present

/-- What is returned goes to the result slot, and objects elsewhere are kept. -/
theorem keepsObjects_withReturned {callee frame : Frame} {merged : Heap}
    (keeps : caller.KeepsObjects frame heap merged) :
    caller.KeepsObjects (op.withReturned frame callee) heap merged := by
  intro register notResult handle held resolves
  obtain ⟨final, found, same⟩ := keeps register notResult handle held resolves
  refine ⟨final, ?_, same⟩
  rw [peek_withReturned notResult]
  exact found

/-! ## One call -/

/-- What a call that was asked to have an effect on a buffer did. -/
structure Serves (receiver : Handle) (effect : BufferEffect) (node returned : Node)
    (before after : Analysis σ) (outcome : Outcome) (made : Option Handle) : Prop where
  completed : outcome = .completed
  edit : (before.heaps.get node.activation.heap).BufferEdit receiver effect made
    (after.heaps.get node.activation.heap)
  /-- What it results in is in the result slot. -/
  result : ∀ handle, made = some handle →
    (returned.frame.peek .result).handle? = some handle
  keeps : node.frame.KeepsObjects returned.frame (before.heaps.get node.activation.heap)
    (after.heaps.get node.activation.heap)
  heap : returned.activation.heap = node.activation.heap
  catalog : after.registry.catalog = before.registry.catalog

/-- Copying a buffer results in a new string with its content. -/
theorem Serves.exists_copy {returned : Node} {after : Analysis σ} {outcome : Outcome}
    {made : Option Handle}
    (serves : Serves receiver .read node returned before after outcome made) :
    ∃ copy content, (returned.frame.peek .result).handle? = some copy ∧
      ¬ (before.heaps.get node.activation.heap).Resolves copy ∧
      (before.heaps.get node.activation.heap).get receiver = .ok (.builder content) ∧
      (after.heaps.get node.activation.heap).get copy = .ok (.string content) := by
  have edit := serves.edit
  cases edit with
  | @read content copy _ found allocated =>
      refine ⟨copy, content, serves.result copy rfl, ?_, found, ?_⟩
      · exact Heap.not_resolves_of_alloc allocated
      · exact Heap.get_alloc_self rfl allocated

/-- The handler's call, with what the caller's registers hold for arguments. -/
def bufferCall (machine : Machine σ) (op : InvokeOp) (node : Node) (before : Analysis σ) :
    EmulatedCall where
  method := op.method
  frame := (op.calleeFor machine node before).frame
  heap := before.heaps.get node.activation.heap

section bufferCall

variable {others : List Nat} (named : op.Named method)
  (registers : op.registers = number :: others)
include named registers

/-- The receiver is passed. -/
theorem handle?_argument_bufferCall
    (refers : (node.frame.peek (.index number)).handle? = some receiver) :
    ((op.bufferCall machine node before).argument 0).handle? = some receiver := by
  have held : op.registers[0]? = some number := by
    rw [registers]
    rfl
  have typed : op.method.parameterTypes[0]? = some TypeName.stringBuilder := by
    rw [named.parameterTypes]
    rfl
  rw [bufferCall, argument_calleeFor named.ordinary named.narrow held typed]
  exact (TypedValue.handle?_marshal _ _).trans refers

/-- What follows the receiver is passed. -/
theorem argument_bufferCall {position : Nat} {item : TypedValue}
    (passed : (BufferMethod.passed before.registry.catalog
      (others.map fun other => node.frame.peek (.index other))
      method.declaredTypes)[position]? = some item) :
    (op.bufferCall machine node before).argument (position + 1) = item := by
  obtain ⟨source, declared, at_, typed, rfl⟩ := List.getElem?_zipWith_eq_some.mp passed
  rw [List.getElem?_map] at at_
  obtain ⟨other, held, rfl⟩ := Option.map_eq_some_iff.mp at_
  apply argument_calleeFor named.ordinary named.narrow
  · rw [registers]
    exact held
  · rw [named.parameterTypes]
    exact typed

/-- The handler runs if what follows the receiver is known. -/
theorem allKnown_bufferCall
    (refers : (node.frame.peek (.index number)).handle? = some receiver)
    (known : ∀ item ∈ BufferMethod.passed before.registry.catalog
      (others.map fun other => node.frame.peek (.index other)) method.declaredTypes,
      item.isUnknown = false) :
    Arguments.allKnown op.method (op.calleeFor machine node before).frame = true := by
  apply allKnown_calleeFor named.ordinary named.narrow
  intro index other declared held typed
  rw [registers] at held
  rw [named.parameterTypes] at typed
  cases index with
  | zero =>
      cases held
      cases typed
      exact TypedValue.isUnknown_of_handle? ((TypedValue.handle?_marshal _ _).trans refers)
  | succ position =>
      apply known
      apply List.mem_of_getElem? (i := position)
      apply List.getElem?_zipWith_eq_some.mpr
      refine ⟨node.frame.peek (.index other), declared, ?_, typed, rfl⟩
      rw [List.getElem?_map]
      exact congrArg (Option.map _) held

end bufferCall

/-- Emulating the target is carrying out the handler's call. -/
theorem exists_emulateFor (emulates : machine.emulator = JavaLang.emulator σ)
    (named : op.Named method) (undispatched : op.targetFor before node = op.method)
    {returned : EmulatedReturn}
    (done : (op.bufferCall machine node before).run method.emulated = .ok returned) :
    ∃ ran, op.emulateFor machine node before =
        ((.ok returned.result, (op.calleeFor machine node before).withFrame returned.frame),
          ran) ∧
      ran.heaps = before.heaps.set node.activation.heap returned.heap ∧
      ran.registry.catalog = before.registry.catalog := by
  have alike : before.Alike ((op.plan machine node.activation).run before).2 :=
    op.alike_run_plan machine node.activation before
  have target : (op.planFor machine before node).target.signature =
      method.emulated.signature := by
    rw [planFor_of_ordinary named.ordinary, undispatched]
    exact named.signature
  have method_eq : (op.calleeFor machine node before).method = op.method := rfl
  have heap_eq : (op.calleeFor machine node before).heap = node.activation.heap := rfl
  have planned : (EmulatedCall.mk (op.calleeFor machine node before).method
      (op.calleeFor machine node before).frame
      (((op.plan machine node.activation).run before).2.heaps.get
        (op.calleeFor machine node before).heap)).run method.emulated = .ok returned := by
    rw [method_eq, heap_eq, alike.heaps]
    exact done
  rw [emulateFor, emulates, target, JavaLang.run_emulate planned]
  refine ⟨_, rfl, ?_, alike.catalog⟩
  simp only [heap_eq, alike.heaps]

/-- A call that is asked to have an effect on a buffer has it. -/
theorem serves_execute (emulates : machine.emulator = JavaLang.emulator σ)
    (unregistered : before.registry.catalog.find? TypeName.stringBuilder = none)
    (asks : op.Asks (before.heaps.get node.activation.heap) node.frame receiver effect) :
    let run := (op.execute machine node).run before
    ∃ made, Serves receiver effect node run.1.2 before run.2 run.1.1.outcome made := by
  intro run
  obtain ⟨method, number, others, names, registers, refers, means⟩ := asks.call
  have named := names.named
  have place := asks.ready.bufferPlace
  have first : op.firstRegister? = some number := by
    rw [firstRegister?, registers]
    rfl
  have undispatched := undispatched first refers place unregistered
  -- The handler is given the arguments and has the effect on the buffer.
  have marshaled := means.marshal before.registry.catalog
  have receiverPassed : ((op.bufferCall machine node before).argument 0).handle? =
      some receiver := handle?_argument_bufferCall named registers refers
  have known : Arguments.allKnown op.method (op.calleeFor machine node before).frame = true :=
    allKnown_bufferCall named registers refers marshaled.isUnknown_eq_false
  obtain ⟨returned, done, effects⟩ := EmulatedCall.exists_run marshaled receiverPassed
    (fun item items => argument_bufferCall named registers (by rw [items]; rfl)) asks.ready
  obtain ⟨ran, emulation, heaps, catalog⟩ :=
    exists_emulateFor emulates named undispatched done
  -- What it did is returned to the caller.
  have planRefers : ((op.planFor machine before node).frame.peek (.index number)).handle? =
      some receiver := by
    rw [peek_frame_planFor]
    exact refers
  obtain ⟨frame, made, merged, received, edit, keeps, result⟩ :=
    exists_received machine effects place receiverPassed named.hasReceiver first planRefers
  have canEmulate : machine.emulator.canEmulate op.method.signature = true := by
    rw [emulates, named.signature, Emulator.canEmulate, JavaLang.find?_emulator]
    rfl
  have handled := strategy_planFor_of_canEmulate named.ordinary undispatched canEmulate
  have heapAfter : ran.heaps.get node.activation.heap = returned.heap := by
    rw [heaps, HeapStore.get_set_self]
  obtain ⟨completed, heap, frame_eq, after_eq⟩ := execute_of_emulated handled known emulation
    effects.exceptions (heapAfter ▸ received)
  have merged_eq : run.2.heaps.get node.activation.heap = merged := by
    rw [after_eq, HeapStore.get_set_self]
  refine ⟨made, ?_⟩
  constructor
  case completed => exact completed
  case edit =>
    rw [merged_eq]
    exact edit
  case result =>
    intro handle isMade
    have continues := edit.isReset_eq_false isMade
    have returns : op.method.returnsVoid = false := by
      rw [Method.returnsVoid, named.returnType]
      exact beq_false_of_ne (means.returnType_ne_void continues)
    rw [frame_eq, peek_result_withReturned returns]
    exact result handle isMade
  case keeps =>
    rw [merged_eq, frame_eq]
    apply keepsObjects_withReturned
    intro register notResult handle held resolves
    apply keeps register notResult handle _ resolves
    rw [peek_frame_planFor]
    exact held
  case heap => exact heap
  case catalog =>
    rw [after_eq]
    exact catalog

end InvokeOp

end Callsite
