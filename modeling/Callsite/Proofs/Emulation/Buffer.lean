import Callsite.Proofs.Emulation.InPlace
import Callsite.Proofs.Frame.Closed
import Callsite.Proofs.Heap.Buffer

/-!
# Emulated methods of character buffers

Each of the emulated methods of a buffer has one effect on its receiver, which the
arguments tell.  The arguments tell the same when they are passed, and the handler of the
method has that effect and leaves the result where the caller looks for it.
-/

namespace Callsite

variable {σ : Type}

namespace TypedValue

variable {item : TypedValue} {catalog : Catalog}

/-- The item is `null`, or a zero that stands for it. -/
def IsNullArgument (item : TypedValue) : Prop :=
  item.value = .null ∨ item.type = TypeName.int ∧ item.value = .int 0

theorem handle?_of_isNullArgument (isNull : item.IsNullArgument) : item.handle? = none := by
  rcases isNull with value | ⟨_, value⟩
  · rw [handle?, value]
    rfl
  · rw [handle?, value]
    rfl

theorem isUnknown_of_isNullArgument (isNull : item.IsNullArgument) :
    item.isUnknown = false := by
  rcases isNull with value | ⟨_, value⟩
  · rw [isUnknown, value]
    rfl
  · rw [isUnknown, value]
    rfl

/-- A reference is known. -/
theorem isUnknown_of_handle? {handle : Handle} (refers : item.handle? = some handle) :
    item.isUnknown = false := by
  rw [isUnknown, Value.handle?_eq_some.mp refers]
  rfl

/-- An item of a primitive type is passed as the declared type. -/
theorem reconcile_of_isPrimitive (primitive : item.isPrimitive = true)
    (declared : TypeName) : catalog.reconcile item declared = declared := by
  have base : item.hasPrimitiveBase = true := by
    rw [isPrimitive] at primitive
    rw [hasPrimitiveBase]
    generalize item.type = type at primitive
    simp only [TypeName.isPrimitive, List.contains_eq_mem, List.mem_cons, List.not_mem_nil,
      or_false, decide_eq_true_eq] at primitive
    rcases primitive with rfl | rfl | rfl | rfl | rfl | rfl | rfl | rfl | rfl <;> decide
  rw [Catalog.reconcile, if_pos base]

/-- Where an object is expected, both are passed as `null`. -/
theorem value_marshal_of_isNullArgument (isNull : item.IsNullArgument) {declared : TypeName}
    (isReference : TypeName.isReference declared = true) :
    (item.marshal (catalog.reconcile item declared)).value = .null := by
  rcases isNull with value | ⟨type, value⟩
  · rw [marshal]
    split
    · split
      · rfl
      · rw [TypedValue.cast, value]
        exact Value.cast_null _
    · exact value
  · have primitive : item.isPrimitive = true := by
      rw [isPrimitive, type]
      decide
    have isZero : item.value.integer? = some 0 := by
      rw [value]
      rfl
    have known : item.isUnknown = false := by
      rw [isUnknown, value]
      rfl
    rw [reconcile_of_isPrimitive primitive, marshal, primitive, known]
    simp only [type, isZero, isReference, Bool.not_false, Bool.and_self, and_self, if_true]

/-- Where an integer is expected, one is passed as it is. -/
theorem value_marshal_of_int {number : Int32} (value : item.value = .int number) :
    (item.marshal (catalog.reconcile item TypeName.int)).value = .int number := by
  rw [marshal]
  split
  · next known =>
      rw [Bool.and_eq_true] at known
      rw [reconcile_of_isPrimitive known.1, if_neg]
      · rw [cast, value]
        exact congrArg Value.int (Int32.ofInt_toInt number)
      · rintro ⟨_, _, impossible⟩
        cases impossible
  · exact value

end TypedValue

/-- The flags that a method is given matter for its own flags only. -/
theorem Method.parse_flags {signature : String} {flags other : AccessFlags}
    {method : Method} (parsed : parse signature other = .ok method) :
    parse signature flags = .ok { method with flags := flagsFor method.name flags } := by
  simp only [parse] at parsed ⊢
  split at parsed
  · cases parsed
  split at parsed
  · cases parsed
  split at parsed
  · cases parsed
  split at parsed
  · cases parsed
  next wellFormed =>
  split at parsed
  · cases parsed
  · cases parsed
    rw [if_neg wellFormed]

namespace JavaLang

/-- The emulated methods of a character buffer. -/
inductive BufferMethod where
  | init
  | initString
  | appendString
  | appendInt
  | toString
  deriving DecidableEq, Repr

namespace BufferMethod

/-- The method among all emulated ones. -/
def emulated : BufferMethod → Emulated
  | .init => .builderInit
  | .initString => .builderInitString
  | .appendString => .builderAppendString
  | .appendInt => .builderAppendInt
  | .toString => .builderToString

/-- The name of the method. -/
def name : BufferMethod → String
  | .init => "<init>"
  | .initString => "<init>"
  | .appendString => "append"
  | .appendInt => "append"
  | .toString => "toString"

/-- The types of the parameters, the buffer apart. -/
def declaredTypes : BufferMethod → List TypeName
  | .init => []
  | .initString => [TypeName.string]
  | .appendString => [TypeName.string]
  | .appendInt => [TypeName.int]
  | .toString => []

/-- The type of the result. -/
def returnType : BufferMethod → TypeName
  | .init => TypeName.void
  | .initString => TypeName.void
  | .appendString => TypeName.stringBuilder
  | .appendInt => TypeName.stringBuilder
  | .toString => TypeName.string

/-- The method that the signature names, without a body. -/
def declared (method : BufferMethod) (flags : AccessFlags) : Method where
  signature := method.emulated.signature
  className := TypeName.stringBuilder
  name := method.name
  descriptor := Signature.descriptorPart method.emulated.signature
  declaredTypes := method.declaredTypes
  returnType := method.returnType
  flags := Method.flagsFor method.name flags

theorem parse_signature (method : BufferMethod) (flags : AccessFlags) :
    Method.parse method.emulated.signature flags = .ok (method.declared flags) := by
  -- The parser can be run once the flags are given, and they matter for the flags only.
  have parsed : Method.parse method.emulated.signature ⟨0⟩ = .ok (method.declared ⟨0⟩) := by
    cases method <;> decide +kernel
  exact Method.parse_flags parsed

/-- What the arguments apart from the buffer tell a method to do. -/
inductive Means (heap : Heap) : BufferMethod → List TypedValue → BufferEffect → Prop where
  | init : Means heap .init [] (.reset "")
  | initString {item : TypedValue} {handle : Handle} {text : String} :
      item.handle? = some handle → heap.get handle = .ok (.string text) →
      Means heap .initString [item] (.reset text)
  | appendString {item : TypedValue} {handle : Handle} {text : String} :
      item.handle? = some handle → heap.get handle = .ok (.string text) →
      Means heap .appendString [item] (.extend text)
  | appendNull {item : TypedValue} :
      item.IsNullArgument → Means heap .appendString [item] (.extend "null")
  | appendInt {item : TypedValue} {number : Int32} :
      item.value = .int number →
      Means heap .appendInt [item] (.extend (Decimal.ofInt number.toInt))
  | toString : Means heap .toString [] .read

/-- The types of the parameters are narrow. -/
theorem isWide_of_mem_declaredTypes {method : BufferMethod} {type : TypeName}
    (member : type ∈ TypeName.stringBuilder :: method.declaredTypes) :
    TypeName.isWide type = false := by
  cases method <;> simp [declaredTypes] at member <;> rcases member with rfl | rfl <;> decide

/-- Items as they are passed to parameters of the declared types. -/
def passed (catalog : Catalog) (items : List TypedValue) (declared : List TypeName) :
    List TypedValue :=
  List.zipWith (fun item type => item.marshal (catalog.reconcile item type)) items declared

section Means

variable {heap : Heap} {method : BufferMethod} {items : List TypedValue}
  {effect : BufferEffect} (means : Means heap method items effect)
include means

/-- The arguments mean the same when they are passed. -/
theorem Means.marshal (catalog : Catalog) :
    Means heap method (passed catalog items method.declaredTypes) effect := by
  cases means with
  | init => exact .init
  | initString refers found =>
      exact .initString ((TypedValue.handle?_marshal _ _).trans refers) found
  | appendString refers found =>
      exact .appendString ((TypedValue.handle?_marshal _ _).trans refers) found
  | appendNull isNull =>
      exact .appendNull (.inl (TypedValue.value_marshal_of_isNullArgument isNull (by decide)))
  | appendInt value => exact .appendInt (TypedValue.value_marshal_of_int value)
  | toString => exact .toString

/-- All arguments that mean something are known. -/
theorem Means.isUnknown_eq_false : ∀ item ∈ items, item.isUnknown = false := by
  cases means with
  | init => nofun
  | initString refers _ =>
      simp only [List.forall_mem_singleton]
      exact TypedValue.isUnknown_of_handle? refers
  | appendString refers _ =>
      simp only [List.forall_mem_singleton]
      exact TypedValue.isUnknown_of_handle? refers
  | appendNull isNull =>
      simp only [List.forall_mem_singleton]
      exact TypedValue.isUnknown_of_isNullArgument isNull
  | appendInt value =>
      simp only [List.forall_mem_singleton, TypedValue.isUnknown, value]
      rfl
  | toString => nofun

/-- A method that does more than starting a buffer over returns something. -/
theorem Means.returnType_ne_void (continues : effect.isReset = false) :
    method.returnType ≠ TypeName.void := by
  cases means with
  | init => cases continues
  | initString _ _ => cases continues
  | appendString _ _ => decide
  | appendNull _ => decide
  | appendInt _ => decide
  | toString => decide

end Means

end BufferMethod

/-- Every emulated method is found by its signature. -/
theorem find?_emulator (emulated : Emulated) :
    (emulator σ).find? emulated.signature =
      some { signature := emulated.signature, handler := handler emulated } := by
  cases emulated <;> rfl

/-- Emulating a method carries out the call on the heap of the activation. -/
theorem run_emulate {emulated : Emulated} {activation : Activation} {before : Analysis σ}
    {returned : EmulatedReturn}
    (done : (EmulatedCall.mk activation.method activation.frame
      (before.heaps.get activation.heap)).run emulated = .ok returned) :
    ((emulator σ).emulate activation emulated.signature).run before =
      ((.ok returned.result, activation.withFrame returned.frame),
        { before with
          remarks := before.remarks.push (.emulating emulated.signature)
          heaps := before.heaps.set activation.heap returned.heap }) := by
  rw [Emulator.emulate, find?_emulator]
  simp only [AnalysisM.run_bind, AnalysisM.run_remark, run_handler, done]
  rfl

namespace EmulatedCall

variable {call : EmulatedCall} {returned : EmulatedReturn} {receiver : Handle}
  {effect : BufferEffect} {method : BufferMethod} {items : List TypedValue}

/-- What a call that has an effect on the buffer of a handle comes to. -/
inductive Effects (call : EmulatedCall) (receiver : Handle) :
    BufferEffect → EmulatedReturn → Prop where
  | reset {text : String} {new : Handle} {grown : Heap} :
      call.heap.alloc (.builder text) = .ok (new, grown) →
      Effects call receiver (.reset text)
        { result := { sideEffect := .nothing }
          frame := call.frame.assignParameter 0
            (TypedValue.reference new TypeName.stringBuilder)
          heap := grown }
  | extend {text content : String} {after : Heap} :
      call.heap.get receiver = .ok (.builder content) →
      call.heap.replace receiver (.builder (content ++ text)) = .ok after →
      Effects call receiver (.extend text)
        { result := { sideEffect := .weak }
          frame := call.frame.assign .returned (call.argument 0)
          heap := after }
  | read {content : String} {copy : Handle} {grown : Heap} :
      call.heap.get receiver = .ok (.builder content) →
      call.heap.alloc (.string content) = .ok (copy, grown) →
      Effects call receiver .read
        { result := { sideEffect := .nothing }
          frame := call.frame.assign .returned
            (TypedValue.reference copy TypeName.string)
          heap := grown }

theorem argument_zero (call : EmulatedCall) : call.argument 0 = call.frame.peekParameter 0 := by
  rw [argument, Method.offsets]
  cases call.method.parameterTypes <;> rfl

/-- An argument that refers to a string has its content. -/
theorem stringArgument_of_get {position : Nat} {handle : Handle} {text : String}
    (refers : (call.argument position).handle? = some handle)
    (found : call.heap.get handle = .ok (.string text)) :
    call.stringArgument position = .ok (some text) := by
  simp only [stringArgument, refers, Heap.stringOf, found]

/-- An argument that is no reference has no content. -/
theorem stringArgument_of_isNullArgument {position : Nat}
    (isNull : (call.argument position).IsNullArgument) :
    call.stringArgument position = .ok none := by
  simp only [stringArgument, TypedValue.handle?_of_isNullArgument isNull]

theorem builder_of_get {content : String}
    (refers : (call.argument 0).handle? = some receiver)
    (found : call.heap.get receiver = .ok (.builder content)) :
    call.builder = .ok (receiver, content) := by
  simp only [builder, refers, found]
  rfl

theorem exists_receiveNew {text : String} (room : call.heap.size < call.heap.capacity) :
    ∃ returned, call.receiveNew (.builder text) TypeName.stringBuilder = .ok returned ∧
      call.Effects receiver (.reset text) returned := by
  obtain ⟨new, grown, allocated⟩ := Heap.exists_alloc room (.builder text)
  refine ⟨_, ?_, .reset allocated⟩
  rw [receiveNew, allocated]
  rfl

theorem exists_append {text content : String}
    (refers : (call.argument 0).handle? = some receiver)
    (found : call.heap.get receiver = .ok (.builder content)) :
    ∃ returned, call.append text = .ok returned ∧
      call.Effects receiver (.extend text) returned := by
  obtain ⟨slot, resolved, _⟩ := call.heap.get_eq_ok.mp found
  have replaced : call.heap.replace receiver (.builder (content ++ text)) =
      .ok (call.heap.set slot (.builder (content ++ text))) := by
    rw [Heap.replace, resolved]
  refine ⟨_, ?_, .extend found replaced⟩
  rw [append, builder_of_get refers found]
  simp only [bind, Except.bind, replaced]
  rfl

/-- A call whose arguments mean an effect has it. -/
theorem exists_run (means : method.Means call.heap items effect)
    (refers : (call.argument 0).handle? = some receiver)
    (passed : ∀ item, items = [item] → call.argument 1 = item)
    (ready : call.heap.ReadyFor receiver effect) :
    ∃ returned, call.run method.emulated = .ok returned ∧
      call.Effects receiver effect returned := by
  cases means with
  | init => exact exists_receiveNew (ready.room rfl)
  | @initString item handle text held found =>
      rw [← passed item rfl] at held
      obtain ⟨returned, made, effects⟩ := exists_receiveNew (ready.room rfl)
      refine ⟨returned, ?_, effects⟩
      simp only [run, BufferMethod.emulated, stringArgument_of_get held found]
      exact made
  | @appendString item handle text held found =>
      rw [← passed item rfl] at held
      obtain ⟨content, isBuffer⟩ := ready.exists_builder rfl
      obtain ⟨returned, made, effects⟩ := exists_append refers isBuffer
      refine ⟨returned, ?_, effects⟩
      simp only [run, BufferMethod.emulated, stringArgument_of_get held found]
      exact made
  | @appendNull item isNull =>
      rw [← passed item rfl] at isNull
      obtain ⟨content, isBuffer⟩ := ready.exists_builder rfl
      obtain ⟨returned, made, effects⟩ := exists_append refers isBuffer
      refine ⟨returned, ?_, effects⟩
      simp only [run, BufferMethod.emulated, stringArgument_of_isNullArgument isNull]
      exact made
  | @appendInt item number value =>
      rw [← passed item rfl] at value
      obtain ⟨content, isBuffer⟩ := ready.exists_builder rfl
      obtain ⟨returned, made, effects⟩ := exists_append refers isBuffer
      refine ⟨returned, ?_, effects⟩
      simp only [run, BufferMethod.emulated, value, Value.integer?]
      exact made
  | toString =>
      obtain ⟨content, isBuffer⟩ := ready.exists_builder rfl
      obtain ⟨copy, grown, allocated⟩ := Heap.exists_alloc (ready.room rfl) (.string content)
      refine ⟨_, ?_, .read isBuffer allocated⟩
      simp only [run, BufferMethod.emulated, builder_of_get refers isBuffer]
      simp only [returnNew, bind, Except.bind, allocated]
      rfl

/-- A call that has an effect raises nothing. -/
theorem Effects.exceptions (effects : call.Effects receiver effect returned) :
    returned.result.exceptions = [] := by
  cases effects <;> rfl

end EmulatedCall

end JavaLang

end Callsite
