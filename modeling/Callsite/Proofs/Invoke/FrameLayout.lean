import Callsite.Proofs.Invoke.Layout
import Callsite.Proofs.Method.Parsing
import Mathlib.Control.Monad.Basic

/-!
# How the frames of caller and callee fit together

Arguments are laid out by the types that they are passed as, and the callee may be a method
that the class of the receiver declares in place of the one that the call site names.  Both
are looked for by the offsets of the named method.  These are the same three times over:
an overriding method has the same descriptor, and an argument is passed as a type as wide as
the declared one.
-/

namespace Callsite

variable {σ : Type}

namespace InvokeOp

variable {op : InvokeOp} {catalog : Catalog} {heap : Heap} {frame : Frame}

/-! ## The method that runs -/

/-- The method that runs is the declared one, or one that a registered class declares under
the same descriptor. -/
theorem target_cases (op : InvokeOp) (catalog : Catalog) (heap : Heap) (frame : Frame) :
    op.target catalog heap frame = op.method ∨
      ∃ name definition, catalog.resolve name = .ok definition ∧
        definition.method? op.method.descriptor = some (op.target catalog heap frame) := by
  rw [target]
  split
  · cases chosen : op.override? catalog heap frame with
    | none => exact .inl rfl
    | some method =>
        simp only [override?, Option.bind_eq_bind, Option.bind_eq_some_iff] at chosen
        obtain ⟨_, _, type, _, definition, resolved, candidate, declared, chosen⟩ := chosen
        split at chosen
        · cases chosen
          refine .inr ⟨type, definition, ?_, declared⟩
          cases found : catalog.resolve type with
          | error cause =>
              rw [found] at resolved
              cases resolved
          | ok other =>
              rw [found] at resolved
              exact congrArg Except.ok (Option.some.inj resolved)
        · cases chosen
  · exact .inl rfl

/-- The method that runs has the descriptor of the declared one. -/
theorem descriptor_target (op : InvokeOp) (catalog : Catalog) (heap : Heap) (frame : Frame) :
    (op.target catalog heap frame).descriptor = op.method.descriptor := by
  rcases op.target_cases catalog heap frame with same | ⟨_, definition, _, declared⟩
  · rw [same]
  · have found := List.find?_some
      (p := fun method : Method => method.descriptor == op.method.descriptor) declared
    exact eq_of_beq found

/-- If all methods were built as methods are, so was the one that runs. -/
theorem parsed_target (parsed : op.method.Parsed) (registered : catalog.Parsed) :
    (op.target catalog heap frame).Parsed := by
  rcases op.target_cases catalog heap frame with same | ⟨name, definition, resolved, declared⟩
  · rw [same]
    exact parsed
  · have member := List.mem_of_find?_eq_some declared
    rw [Catalog.resolve] at resolved
    split at resolved
    · next found =>
        cases resolved
        exact registered name definition found _ member
    · split at resolved
      · cases resolved
        cases member
      · cases resolved

/-! ## Frames of callees -/

/-- The frames that a callee may be given: one with nothing but the parameters of the declared
method, and one for the body of the target, whichever size the body asks for. -/
inductive CalleeFrame (op : InvokeOp) (target : Method) : Frame → Prop where
  | parameters : CalleeFrame op target (Frame.forParameters op.method)
  | body : CalleeFrame op target (Frame.forMethod target)
  | sized {registers : Nat} : registers < UInt16.size →
      CalleeFrame op target (Frame.forMethod (target.withBody registers))

end InvokeOp

/-- A frame in which nothing is written and the last registers are for parameters of a
size. -/
structure Frame.Awaits (frame : Frame) (size : Nat) : Prop where
  unwritten : ∀ register, frame.get? register = none
  parameters : frame.parameterStart + size = frame.registerCount
  small : frame.registerCount < UInt16.size

namespace Frame

theorem awaits_blank {count size : Nat} (enough : size ≤ count) (small : count < UInt16.size) :
    (blank count size).Awaits size where
  unwritten register := get?_blank count size register
  parameters := by
    rw [registerCount_blank]
    exact Nat.sub_add_cancel enough
  small := by
    rw [registerCount_blank]
    exact small

/-- A frame for a body, however many registers that asks for, has room for the parameters. -/
theorem awaits_forMethod {method : Method} (parameters : method.parameterSize < UInt16.size)
    (body : ∀ registers, method.body = some registers → registers < UInt16.size) :
    (forMethod method).Awaits method.parameterSize := by
  refine awaits_blank method.parameterSize_le_registerCount ?_
  rw [Method.registerCount]
  split
  · exact parameters
  · next registers asked => exact Nat.max_lt.mpr ⟨body registers asked, parameters⟩

end Frame

namespace InvokeOp

variable {op : InvokeOp} {target : Method} {callee : Frame}

theorem CalleeFrame.awaits (fresh : op.CalleeFrame target callee) (parsed : target.Parsed)
    (same : target.parameterSize = op.method.parameterSize)
    (small : op.method.parameterSize < UInt16.size) :
    callee.Awaits op.method.parameterSize := by
  cases fresh with
  | parameters => exact Frame.awaits_blank (Nat.le_refl _) small
  | body =>
      rw [← same] at small ⊢
      exact Frame.awaits_forMethod small fun _ asked => parsed.body_lt asked
  | @sized registers fits =>
      rw [← same] at small ⊢
      have asksFor : (target.withBody registers).body = some registers := rfl
      have sized : (Frame.forMethod (target.withBody registers)).Awaits
          (target.withBody registers).parameterSize :=
        Frame.awaits_forMethod small fun other asked =>
          Option.some.inj (asksFor.symm.trans asked) ▸ fits
      exact sized

/-! ## Where the arguments end up -/

/-- The arguments of a call, passed as values of the given types, are where the callee looks
for them, and nothing else is written. -/
structure LaidOut (op : InvokeOp) (target : Method) (caller : Frame) (types : List TypeName)
    (callee : Frame) : Prop where
  /-- At each declared offset there is the argument of that position. -/
  found : ∀ (index offset : Nat) (declared : TypeName),
    op.method.offsets[index]? = some (offset, declared) → ∃ (number : Nat) (type : TypeName),
      op.registers[index]? = some number ∧ types[index]? = some type ∧
      (Arguments.pass caller op.registers types callee).peekParameter offset =
        (caller.peek (.index number)).marshal type
  /-- No other register is written. -/
  unwritten : ∀ register,
    (∀ placed ∈ op.method.offsets, register ≠ .index (callee.parameterStart + placed.1)) →
      (Arguments.pass caller op.registers types callee).get? register = none
  /-- Each argument is written to a register that the frame has. -/
  inside : ∀ placed ∈ Method.place 0 types,
    callee.has (.index (callee.parameterStart + placed.1)) = true
  /-- The end of each parameter, by the types of the declared method, those of the target and
  those that are passed, and the register that it starts at are numbers of 16 bits. -/
  sums : ∀ placed ∈ op.method.offsets ++ target.offsets ++ Method.place 0 types,
    placed.1 + placed.2.registerSize < UInt16.size ∧
      callee.parameterStart + placed.1 < UInt16.size

/-- Whichever types of the declared sizes are placed, none ends after the parameters. -/
theorem end_le_of_mem_place {op : InvokeOp} {types : List TypeName} {placed : Nat × TypeName}
    (sizes : types.map TypeName.registerSize =
      op.method.parameterTypes.map TypeName.registerSize)
    (member : placed ∈ Method.place 0 types) :
    placed.1 + placed.2.registerSize ≤ op.method.parameterSize := by
  have total : Method.totalSize types = op.method.parameterSize := congrArg List.sum sizes
  rw [← total]
  exact Method.end_le_totalSize member

/-- Arguments that are passed as types of the declared sizes are laid out. -/
theorem laidOut_of_sizes {caller : Frame} {types : List TypeName}
    (awaits : callee.Awaits op.method.parameterSize)
    (targetSizes : target.parameterTypes.map TypeName.registerSize =
      op.method.parameterTypes.map TypeName.registerSize)
    (sizes : types.map TypeName.registerSize =
      op.method.parameterTypes.map TypeName.registerSize) :
    op.LaidOut target caller types callee := by
  have room := awaits.parameters
  have small := awaits.small
  constructor
  · intro index offset declared placed
    have listed : index < op.registers.length := by
      rw [op.length_registers, ← op.method.length_offsets]
      exact (List.getElem?_eq_some_iff.mp placed).1
    have passed := List.getElem?_eq_getElem listed
    obtain ⟨type, typed, found⟩ := Arguments.peekParameter_pass_of_sizes sizes
      op.length_registers (Nat.le_of_eq room) passed placed
    exact ⟨_, type, passed, typed, found⟩
  · intro register elsewhere
    rw [Arguments.pass_eq_foldl, Arguments.get?_foldl_of_ne, awaits.unwritten]
    intro argument member
    have offset : argument.2.1 ∈ (Method.place 0 types).map Prod.fst :=
      List.mem_map_of_mem (List.of_mem_zip member).2
    rw [Method.map_fst_place sizes] at offset
    obtain ⟨placed, declared, same⟩ := List.mem_map.mp offset
    rw [← same]
    exact elsewhere placed declared
  · intro placed member
    have within := end_le_of_mem_place sizes member
    have positive := placed.2.registerSize_pos
    simp only [Frame.has, decide_eq_true_eq]
    omega
  · intro placed member
    have within : placed.1 + placed.2.registerSize ≤ op.method.parameterSize := by
      rcases List.mem_append.mp member with named | passed
      · rcases List.mem_append.mp named with declared | overriding
        · exact end_le_of_mem_place rfl declared
        · exact end_le_of_mem_place targetSizes overriding
      · exact end_le_of_mem_place sizes passed
    have positive := placed.2.registerSize_pos
    constructor <;> omega

/-- Caller and callee agree on the layout of the arguments. -/
theorem frames_agree (op : InvokeOp) (before : Analysis σ) (node : Node)
    (parsed : op.method.Parsed) (registered : before.registry.catalog.Parsed)
    (narrow : before.registry.catalog.NarrowSupertypes)
    (small : op.method.parameterSize < UInt16.size)
    (alike : (op.targetFor before node).isStatic = op.method.isStatic) :
    let target := op.targetFor before node
    let types := ((Arguments.reconcile node.frame op.registers
      op.method.parameterTypes).run before).1
    target.descriptor = op.method.descriptor ∧
      target.offsets.map Prod.fst = op.method.offsets.map Prod.fst ∧
      ∀ callee, op.CalleeFrame target callee →
        op.LaidOut target (node.frame.recordReads op.registers) types callee := by
  intro target types
  have targetParsed : target.Parsed := parsed_target parsed registered
  have descriptor : target.descriptor = op.method.descriptor := op.descriptor_target _ _ _
  have targetSizes : target.parameterTypes.map TypeName.registerSize =
      op.method.parameterTypes.map TypeName.registerSize :=
    targetParsed.map_registerSize_parameterTypes parsed descriptor alike
  have typed : types = op.argumentTypes before node.frame :=
    Arguments.fst_run_reconcile node.frame op.registers op.method.parameterTypes before
  have sizes : types.map TypeName.registerSize =
      op.method.parameterTypes.map TypeName.registerSize := by
    rw [typed]
    exact registerSize_argumentTypes narrow op node.frame
  refine ⟨descriptor, Method.map_fst_place targetSizes 0, ?_⟩
  intro callee fresh
  have awaits := fresh.awaits targetParsed (congrArg List.sum targetSizes) small
  exact laidOut_of_sizes awaits targetSizes sizes

/-- A method with a wide parameter. -/
def storing (className : TypeName) : Method where
  signature := className ++ "->store(JLapp/Box;)V"
  className
  name := "store"
  descriptor := "store(JLapp/Box;)V"
  declaredTypes := ["J", "Lapp/Box;"]
  returnType := "V"
  flags := AccessFlags.isPublic

/-- A virtual call of the method, as the base class declares it. -/
def storeLong : InvokeOp where
  address := 0
  kind := { family := .virtual }
  method := storing "Lapp/Base;"
  registers := [0, 1, 3]
  length_registers := by decide

/-- The class that declares the method with a body. -/
def derivedClass : ClassDef where
  name := "Lapp/Derived;"
  superclass := some "Lapp/Base;"
  methods := [(storing "Lapp/Derived;").withBody 8]

/-- A state with an object of that class. -/
def withDerived : Analysis Unit where
  registry := { catalog := { classes := [derivedClass] } }
  heaps := HeapStore.empty.set 0 { slots := #[.object "Lapp/Derived;"], capacity := 4 }
  own := ()

/-- A node of a method with the object in its first register. -/
def withDerivedNode : Node where
  address := 0
  activation :=
    { method := storing "Lapp/Base;"
      frame := (Frame.blank 4 0).poke (.index 0) (TypedValue.reference 0 "Lapp/Derived;")
      heap := 0 }

theorem eq_derivedClass {name : TypeName} {definition : ClassDef}
    (found : withDerived.registry.catalog.find? name = some definition) :
    definition = derivedClass :=
  List.mem_singleton.mp (List.mem_of_find?_eq_some found)

theorem narrowSupertypes_withDerived : withDerived.registry.catalog.NarrowSupertypes := by
  intro name definition found type member
  rw [eq_derivedClass found] at member
  rw [List.mem_singleton.mp member]
  decide

theorem frames_agree_storeLong :
    let target := storeLong.targetFor withDerived withDerivedNode
    let types := ((Arguments.reconcile withDerivedNode.frame storeLong.registers
      storeLong.method.parameterTypes).run withDerived).1
    (storeLong.method.Parsed ∧ withDerived.registry.catalog.Parsed ∧
        withDerived.registry.catalog.NarrowSupertypes ∧
        storeLong.method.parameterSize < UInt16.size ∧
        target.isStatic = storeLong.method.isStatic ∧
        target.signature = "Lapp/Derived;->store(JLapp/Box;)V") ∧
      target.descriptor = storeLong.method.descriptor ∧
        target.offsets.map Prod.fst = storeLong.method.offsets.map Prod.fst ∧
        ∀ callee, storeLong.CalleeFrame target callee →
          storeLong.LaidOut target (withDerivedNode.frame.recordReads storeLong.registers) types
            callee := by
  intro target types
  have named : Method.parse "Lapp/Base;->store(JLapp/Box;)V" AccessFlags.isPublic =
      .ok storeLong.method := by decide +kernel
  have overriding : Method.parse "Lapp/Derived;->store(JLapp/Box;)V" AccessFlags.isPublic =
      .ok (storing "Lapp/Derived;") := by decide +kernel
  have parsed : storeLong.method.Parsed := .bodiless named
  have registered : withDerived.registry.catalog.Parsed := by
    intro name definition found method member
    rw [eq_derivedClass found] at member
    rw [List.mem_singleton.mp member]
    exact .withBody (.bodiless overriding) (by decide)
  have small : storeLong.method.parameterSize < UInt16.size := by decide
  have alike : target.isStatic = storeLong.method.isStatic := by decide +kernel
  exact ⟨⟨parsed, registered, narrowSupertypes_withDerived, small, alike, by decide +kernel⟩,
    frames_agree storeLong withDerived withDerivedNode parsed registered
      narrowSupertypes_withDerived small alike⟩

end InvokeOp

end Callsite
