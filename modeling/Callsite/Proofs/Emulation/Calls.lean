import Callsite.Proofs.Emulation.Buffer
import Callsite.Proofs.Method.Parsing

/-!
# Calls of emulated and reflected methods

What an emulated or reflected method comes to depends on its arguments and on the heap, and
on nothing else that is in its frame.  `Reflected.ComesTo` and `Emulated.ComesTo` say what
every call with the given arguments comes to, and that there are such calls.
-/

namespace Callsite

/-- A frame holds the arguments of a call: each one lies at the offset of its parameter. -/
def Frame.Presents (frame : Frame) (method : Method) (items : List TypedValue) : Prop :=
  ∀ (position : Nat) (item : TypedValue), items[position]? = some item →
    ∃ offset type, method.offsets[position]? = some (offset, type) ∧
      frame.peekParameter offset = item

namespace Heap

variable {heap grown : Heap} {inst : Instance} {new : Handle} {item : TypedValue}
  {text : String}

/-- An item refers to a string with a content. -/
def HoldsString (heap : Heap) (item : TypedValue) (text : String) : Prop :=
  ∃ handle, item.handle? = some handle ∧ heap.get handle = .ok (.string text)

theorem HoldsString.isUnknown (holds : heap.HoldsString item text) : item.isUnknown = false :=
  holds.elim fun _ held => TypedValue.isUnknown_of_handle? held.1

theorem HoldsString.isNull (holds : heap.HoldsString item text) : item.isNull = false := by
  obtain ⟨handle, refers, _⟩ := holds
  rw [TypedValue.isNull, Value.handle?_eq_some.mp refers]
  rfl

/-- A string stays what it is when an object is made. -/
theorem HoldsString.alloc (holds : heap.HoldsString item text)
    (allocated : heap.alloc inst = .ok (new, grown)) : grown.HoldsString item text := by
  obtain ⟨handle, refers, found⟩ := holds
  have stays := get_alloc allocated (resolves_iff_exists_get.mpr ⟨_, found⟩)
  exact ⟨handle, refers, stays.trans found⟩

/-- A reference to a new string is a reference to a string. -/
theorem holdsString_alloc (allocated : heap.alloc (.string text) = .ok (new, grown)) :
    grown.HoldsString (TypedValue.reference new TypeName.string) text :=
  ⟨new, rfl, get_alloc_self rfl allocated⟩

end Heap

namespace JavaLang

variable {signature : String} {items : List TypedValue} {heap : Heap} {position : Nat}
  {item : TypedValue} {text : String}

/-- There is a call of the method of a signature with the given arguments. -/
def Callable (signature : String) (items : List TypedValue) : Prop :=
  ∃ flags method frame, Method.parse signature flags = .ok method ∧
    Frame.Presents frame method items

theorem Callable.exists_presents (callable : Callable signature items) :
    ∃ method frame, method.signature = signature ∧ Frame.Presents frame method items := by
  obtain ⟨flags, method, frame, parsed, presents⟩ := callable
  exact ⟨method, frame, Method.signature_of_parse parsed, presents⟩

/-- A method whose parameters take one register each can be called with any arguments. -/
theorem callable_of_offsets {flags : AccessFlags} {count : Nat}
    (complete : items.length = count)
    (narrow : (Method.parse signature flags).toOption.map
      (fun method => method.offsets.map Prod.fst) = some (List.range count)) :
    Callable signature items := by
  obtain ⟨method, parsed, offsets⟩ := Option.map_eq_some_iff.mp narrow
  have parsed : Method.parse signature flags = .ok method := by
    cases outcome : Method.parse signature flags with
    | error cause =>
        rw [outcome] at parsed
        cases parsed
    | ok other =>
        rw [outcome] at parsed
        cases parsed
        rfl
  -- The registers of this frame are the arguments, in their order.
  let frame : Frame := { registers := (items.map some).toArray }
  refine ⟨flags, method, frame, parsed, ?_⟩
  intro position item found
  have within : position < count := complete ▸ (List.getElem?_eq_some_iff.mp found).1
  have placed := congrArg (·[position]?) offsets
  simp only [List.getElem?_map, List.getElem?_range within] at placed
  obtain ⟨⟨offset, type⟩, placed, same⟩ := Option.map_eq_some_iff.mp placed
  have inOrder : offset = position := same
  refine ⟨offset, type, placed, ?_⟩
  simp [Frame.peekParameter, Frame.peek, Frame.get?, frame, inOrder, found]

/-! ## Reflected methods -/

namespace Reflected

/-- The modifiers that a method is declared with. -/
def flags : Reflected → AccessFlags
  | .mathAbs => AccessFlags.isStatic
  | .mathMax => AccessFlags.isStatic
  | .integerToString => AccessFlags.isStatic
  | _ => AccessFlags.isPublic

/-- The number of arguments, the receiver included. -/
def parameterCount : Reflected → Nat
  | .stringLength => 1
  | .stringConcat => 2
  | .stringCharAt => 2
  | .stringEquals => 2
  | .mathAbs => 1
  | .mathMax => 2
  | .integerToString => 1

theorem callable (reflected : Reflected) (complete : items.length = reflected.parameterCount) :
    Callable reflected.signature items := by
  have narrow : (Method.parse reflected.signature reflected.flags).toOption.map
      (fun method => method.offsets.map Prod.fst) =
        some (List.range reflected.parameterCount) := by
    cases reflected <;> decide +kernel
  exact callable_of_offsets complete narrow

/-- What reflecting a method comes to in every call with the given arguments, of which there
are some.  The result lies in the return slot and the heap has grown, or the call has failed
and changed nothing. -/
structure ComesTo (reflected : Reflected) (items : List TypedValue) (heap : Heap)
    (outcome : Except ReflectionError (TypedValue × Heap)) : Prop where
  callable : Callable reflected.signature items
  reflects : ∀ {σ : Type} (own : σ) (method : Method) (frame : Frame),
    method.signature = reflected.signature → frame.Presents method items →
      ((reflector σ) method frame heap).run own =
        (match outcome with
          | .error cause => (.error cause, frame, heap)
          | .ok (item, after) => (.ok (), frame.assign .returned item, after), own)

variable {reflected : Reflected} {outcome other : Except ReflectionError (TypedValue × Heap)}

theorem comesTo_of_result (complete : items.length = reflected.parameterCount)
    (made : ∀ call : ReflectedCall, call.heap = heap →
      call.frame.Presents call.method items → call.result reflected = outcome) :
    reflected.ComesTo items heap outcome where
  callable := reflected.callable complete
  reflects own method frame named presents := by
    have result := made { method, frame, heap } rfl presents
    rw [run_reflector, reflect, named, ofSignature?_signature]
    simp only [result]
    cases outcome <;> rfl

/-- The arguments and the heap decide what a call comes to. -/
theorem ComesTo.unique (comesTo : reflected.ComesTo items heap outcome)
    (again : reflected.ComesTo items heap other) : outcome = other := by
  obtain ⟨method, frame, named, presents⟩ := comesTo.callable.exists_presents
  have same := (comesTo.reflects () method frame named presents).symm.trans
    (again.reflects () method frame named presents)
  have returned (item : TypedValue) : (frame.assign .returned item).get? .returned = some item :=
    by simp [Frame.get?_assign, Frame.has]
  cases outcome with
  | error cause =>
      cases other with
      | error cause => cases same; rfl
      | ok made => cases same
  | ok made =>
      cases other with
      | error cause => cases same
      | ok others =>
          have item := congrArg (fun ran => ran.1.2.1.get? .returned) same
          have after := congrArg (fun ran => ran.1.2.2) same
          simp only [returned, Option.some.injEq] at item after
          exact congrArg Except.ok (Prod.ext item after)

end Reflected

namespace ReflectedCall

variable {call : ReflectedCall}

theorem argument_of_presents (presents : call.frame.Presents call.method items)
    (passed : items[position]? = some item) (known : item.isUnknown = false) :
    call.argument position = .ok item := by
  obtain ⟨offset, type, placed, held⟩ := presents position item passed
  simp [argument, placed, held, known]

theorem intArgument_of_presents {number : Int32}
    (presents : call.frame.Presents call.method items)
    (passed : items[position]? = some (TypedValue.int number)) :
    call.intArgument position = .ok number.toInt := by
  have argument := argument_of_presents presents passed rfl
  have fits : -2 ^ 31 ≤ number.toInt ∧ number.toInt < 2 ^ 31 :=
    ⟨number.le_toInt, number.toInt_lt⟩
  simp only [intArgument, argument, TypedValue.int, Value.integer?]
  exact if_pos fits

theorem requiredString_of_presents (presents : call.frame.Presents call.method items)
    (passed : items[position]? = some item) (holds : call.heap.HoldsString item text) :
    call.requiredString position = .ok text := by
  have argument := argument_of_presents presents passed holds.isUnknown
  have notNull := holds.isNull
  obtain ⟨handle, refers, found⟩ := holds
  simp [requiredString, stringArgument, argument, notNull, refers, found, bind, Except.bind]

theorem isString_of_holds {other : String} (holds : call.heap.HoldsString item other) :
    call.isString item text = (other == text) := by
  obtain ⟨handle, refers, found⟩ := holds
  simp only [isString, refers, found]

end ReflectedCall

/-! ## Emulated methods -/

namespace EmulatedReturn

/-- A call returned an item and left a heap behind. -/
def returning (effect : SideEffect) (item : TypedValue) (after : Heap) (frame : Frame) :
    EmulatedReturn where
  result := { sideEffect := effect }
  frame := frame.assign .returned item
  heap := after

/-- A call raised an exception and did nothing else. -/
def raising (exception : Exception) (heap : Heap) (frame : Frame) : EmulatedReturn where
  result := EmulationResult.raised exception
  frame := frame
  heap := heap

end EmulatedReturn

namespace Emulated

/-- The modifiers that a method is declared with. -/
def flags : Emulated → AccessFlags
  | .integerParseInt => AccessFlags.isStatic
  | _ => AccessFlags.isPublic

/-- The number of arguments, the receiver included. -/
def parameterCount : Emulated → Nat
  | .objectGetClass => 1
  | .stringInit => 2
  | .builderInit => 1
  | .builderInitString => 2
  | .builderAppendString => 2
  | .builderAppendInt => 2
  | .builderToString => 1
  | .integerParseInt => 1

theorem callable (emulated : Emulated) (complete : items.length = emulated.parameterCount) :
    Callable emulated.signature items := by
  have narrow : (Method.parse emulated.signature emulated.flags).toOption.map
      (fun method => method.offsets.map Prod.fst) =
        some (List.range emulated.parameterCount) := by
    cases emulated <;> decide +kernel
  exact callable_of_offsets complete narrow

/-- What emulating a method comes to in every call with the given arguments, of which there
are some.  What the frame becomes depends on what else is in it. -/
structure ComesTo (emulated : Emulated) (items : List TypedValue) (heap : Heap)
    (made : Frame → EmulatedReturn) : Prop where
  callable : Callable emulated.signature items
  emulates : ∀ {σ : Type} (before : Analysis σ) (activation : Activation),
    activation.method.signature = emulated.signature →
    before.heaps.get activation.heap = heap →
    activation.frame.Presents activation.method items →
      ((emulator σ).emulate activation activation.method.signature).run before =
        ((.ok (made activation.frame).result,
            activation.withFrame (made activation.frame).frame),
          { before with
            remarks := before.remarks.push (.emulating emulated.signature)
            heaps := before.heaps.set activation.heap (made activation.frame).heap })

variable {emulated : Emulated} {made others : Frame → EmulatedReturn}

theorem comesTo_of_run (complete : items.length = emulated.parameterCount)
    (ran : ∀ call : EmulatedCall, call.heap = heap →
      call.frame.Presents call.method items → call.run emulated = .ok (made call.frame)) :
    emulated.ComesTo items heap made where
  callable := emulated.callable complete
  emulates before activation named shared presents := by
    have ran := ran ⟨activation.method, activation.frame, before.heaps.get activation.heap⟩
      shared presents
    rw [named, run_emulate ran]

/-- Whatever is said of a call, there is a frame on which it agrees: one that holds the
arguments. -/
theorem ComesTo.unique (comesTo : emulated.ComesTo items heap made)
    (again : emulated.ComesTo items heap others) :
    ∃ frame, (made frame).result = (others frame).result ∧
      (made frame).frame = (others frame).frame := by
  obtain ⟨method, frame, named, presents⟩ := comesTo.callable.exists_presents
  let before : Analysis Unit := { heaps := HeapStore.empty.set 0 heap, own := () }
  let activation : Activation := { method, frame, heap := 0 }
  have shared : before.heaps.get activation.heap = heap := HeapStore.get_set_self _ _ _
  have same := (comesTo.emulates before activation named shared presents).symm.trans
    (again.emulates before activation named shared presents)
  have result := congrArg (fun ran => ran.1.1) same
  have frame_eq := congrArg (fun ran => ran.1.2.frame) same
  exact ⟨frame, Except.ok.inj result, frame_eq⟩

end Emulated

namespace EmulatedCall

variable {call : EmulatedCall}

theorem argument_of_presents (presents : call.frame.Presents call.method items)
    (passed : items[position]? = some item) : call.argument position = item := by
  obtain ⟨offset, type, placed, held⟩ := presents position item passed
  simp [argument, placed, held]

end EmulatedCall

end JavaLang

end Callsite
