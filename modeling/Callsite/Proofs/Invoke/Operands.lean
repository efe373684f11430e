import Callsite.Proofs.Invoke.FrameLayout

/-!
# From the operands of an instruction to the parameters of the callee

An instruction names every register that its arguments take, two for a wide one, either one
by one or as a range.  A call site keeps one register for each parameter, and passing the
arguments spreads them out again.  Each step goes through the parameters by itself, and all
of them by the same offsets: what the callee finds at the offset of a parameter comes from
the operand at that offset.
-/

namespace Callsite

namespace Method

variable {method : Method}

/-- Each parameter starts before the end of all of them. -/
theorem offset_lt_of_mem_offsets {placed : Nat × TypeName} (member : placed ∈ method.offsets) :
    placed.1 < method.parameterSize := by
  have within : placed.1 + placed.2.registerSize ≤ method.parameterSize :=
    end_le_totalSize member
  have positive := placed.2.registerSize_pos
  omega

end Method

/-- A frame has a register for the start of each parameter of a method. -/
def Frame.HasParameters (frame : Frame) (method : Method) : Prop :=
  ∀ placed ∈ method.offsets, frame.has (.index (frame.parameterStart + placed.1)) = true

namespace Frame

variable {method target : Method}

theorem hasParameters_blank {count size : Nat} (room : method.parameterSize ≤ size)
    (inside : size ≤ count) : (blank count size).HasParameters method := by
  intro placed member
  have offset := Method.offset_lt_of_mem_offsets member
  have start : (blank count size).parameterStart = count - size := rfl
  rw [has, registerCount_blank, start, decide_eq_true_eq]
  omega

/-- The frame for the body of a method whose parameters take at least as many registers has
a register for each parameter. -/
theorem hasParameters_forMethod (room : method.parameterSize ≤ target.parameterSize) :
    (forMethod target).HasParameters method :=
  hasParameters_blank room target.parameterSize_le_registerCount

end Frame

namespace InvokeOp

variable {address : Nat} {kind : InvokeKind} {method : Method} {operands : List Nat}
  {op : InvokeOp}

/-! ## One register for each parameter -/

/-- There is one register for each parameter of a method, and it is the operand at the
offset of the parameter. -/
structure Collapses (method : Method) (operands registers : List Nat) : Prop where
  /-- No parameter is left out. -/
  complete : registers.length = method.offsets.length
  operand : ∀ (index offset : Nat) (declared : TypeName),
    method.offsets[index]? = some (offset, declared) →
      ∃ number, operands[offset]? = some number ∧ registers[index]? = some number

/-- If there is an operand for every register that the parameters take, none of the first
registers is missing. -/
theorem collapses_firstRegisters (enough : operands.length = method.parameterSize) :
    Collapses method operands (firstRegisters method operands) := by
  have present : ∀ placed ∈ method.offsets, operands[placed.1]?.isSome := by
    intro placed member
    rw [List.getElem?_eq_getElem (enough ▸ Method.offset_lt_of_mem_offsets member)]
    rfl
  have all : (firstRegisters method operands).map some =
      method.offsets.map fun placed => operands[placed.1]? := by
    rw [firstRegisters, List.map_filterMap_some_eq_filter_map_isSome, List.filter_eq_self]
    intro operand member
    obtain ⟨placed, declared, rfl⟩ := List.mem_map.mp member
    exact present placed declared
  constructor
  · simpa only [List.length_map] using congrArg List.length all
  · intro index offset declared placed
    obtain ⟨number, here⟩ := Option.isSome_iff_exists.mp
      (present _ (List.mem_of_getElem? placed))
    have same := congrArg (·[index]?) all
    simp only [List.getElem?_map, placed, Option.map_some, here] at same
    obtain ⟨kept, taken, sameNumber⟩ := Option.map_eq_some_iff.mp same
    rw [Option.some.inj sameNumber] at taken
    exact ⟨number, here, taken⟩

/-- A call site that lists its registers keeps the first one of each parameter. -/
theorem ofOperands_eq_ok :
    ofOperands address kind method operands = .ok op ↔
      operands.length = method.parameterSize ∧
        ofRegisters address kind method (firstRegisters method operands) = .ok op := by
  rw [ofOperands]
  split
  · next enough => simp only [enough, true_and]
  · next different => simp [different]

/-- There is a call site for every list of as many registers as the parameters take. -/
theorem exists_ofOperands_iff (address : Nat) (kind : InvokeKind) (method : Method)
    (operands : List Nat) :
    (∃ op, ofOperands address kind method operands = .ok op) ↔
      operands.length = method.parameterSize := by
  constructor
  · rintro ⟨op, built⟩
    exact (ofOperands_eq_ok.mp built).1
  · intro enough
    have complete := (collapses_firstRegisters enough).complete
    rw [Method.length_offsets] at complete
    exact ⟨⟨address, kind, method, _, complete⟩, ofOperands_eq_ok.mpr
      ⟨enough, ofRegisters_eq_ok.mpr ⟨rfl, rfl, rfl, rfl⟩⟩⟩

/-- A call site that lists its registers is one that is given a register for each
parameter. -/
theorem collapses_of_ofOperands (built : ofOperands address kind method operands = .ok op) :
    op.method = method ∧ ofRegisters address kind method op.registers = .ok op ∧
      Collapses method operands op.registers := by
  obtain ⟨enough, collapsed⟩ := ofOperands_eq_ok.mp built
  obtain ⟨_, _, named, registers⟩ := ofRegisters_eq_ok.mp collapsed
  rw [← registers] at collapsed
  exact ⟨named, collapsed, registers ▸ collapses_firstRegisters enough⟩

/-! ## Ranges -/

/-- A call site with a range of registers is one that lists all of them. -/
theorem ofRange_eq_ok {first count : Nat} :
    ofRange address kind method first count = .ok op ↔
      first + count ≤ maxRegister ∧
        ofOperands address kind method (List.range' first count) = .ok op := by
  rw [ofRange]
  split
  · next inside => simp only [inside, true_and]
  · next outside => simp [outside]

theorem exists_ofRange_iff (address : Nat) (kind : InvokeKind) (method : Method)
    (first count : Nat) :
    (∃ op, ofRange address kind method first count = .ok op) ↔
      first + count ≤ maxRegister ∧ count = method.parameterSize := by
  simp only [ofRange_eq_ok, exists_and_left, exists_ofOperands_iff, List.length_range']

/-- Of a range, each parameter takes the register as far from the first one as the
parameter's offset. -/
theorem getElem?_registers_of_ofRange {first count : Nat}
    (built : ofRange address kind method first count = .ok op) {index offset : Nat}
    {declared : TypeName} (placed : method.offsets[index]? = some (offset, declared)) :
    op.registers[index]? = some (first + offset) := by
  obtain ⟨_, listed⟩ := ofRange_eq_ok.mp built
  obtain ⟨_, _, collapses⟩ := collapses_of_ofOperands listed
  have enough := (ofOperands_eq_ok.mp listed).1
  rw [List.length_range'] at enough
  have within := Method.offset_lt_of_mem_offsets (List.mem_of_getElem? placed)
  obtain ⟨number, operand, kept⟩ := collapses.operand index offset declared placed
  rw [List.getElem?_range' (enough ▸ within), Nat.one_mul] at operand
  rw [kept, ← operand]

/-! ## What the callee finds -/

/-- At each declared offset where the callee has a register, it finds the argument whose
first register is the operand at that offset. -/
def Delivers (op : InvokeOp) (operands : List Nat) (caller : Frame) (types : List TypeName)
    (callee : Frame) : Prop :=
  ∀ (index offset : Nat) (declared : TypeName),
    op.method.offsets[index]? = some (offset, declared) →
    callee.has (.index (callee.parameterStart + offset)) = true →
    ∃ number type, operands[offset]? = some number ∧ types[index]? = some type ∧
      (Arguments.pass (caller.recordReads op.registers) op.registers types
        callee).peekParameter offset = (caller.peek (.index number)).marshal type

theorem delivers_of_sizes {caller : Frame} {types : List TypeName}
    (sizes : types.map TypeName.registerSize =
      op.method.parameterTypes.map TypeName.registerSize)
    (collapses : Collapses op.method operands op.registers) (callee : Frame) :
    op.Delivers operands caller types callee := by
  intro index offset declared placed inside
  obtain ⟨number, operand, passed⟩ := collapses.operand index offset declared placed
  obtain ⟨type, typed, placedHere⟩ := Method.exists_getElem?_place_of_sizes sizes placed
  have lengths := congrArg List.length sizes
  rw [List.length_map, List.length_map, ← op.length_registers] at lengths
  refine ⟨number, type, operand, typed, ?_⟩
  rw [Arguments.peekParameter_pass_of_has lengths.symm inside passed placedHere, Frame.peek,
    Frame.get?_recordReads]
  rfl

/-- However a call site is given its registers, the callee finds at the offset of each
parameter what the operand at that offset stands for. -/
theorem operands_agree (address : Nat) (kind : InvokeKind) (method : Method)
    (small : method.parameterSize < UInt16.size) :
    (∀ placed ∈ method.offsets, placed.1 + placed.2.registerSize < UInt16.size) ∧
    (∀ operands,
      ((∃ op, ofOperands address kind method operands = .ok op) ↔
        operands.length = method.parameterSize) ∧
      ∀ op, ofOperands address kind method operands = .ok op →
        ofRegisters address kind method op.registers = .ok op ∧
          Collapses method operands op.registers) ∧
    (∀ first count,
      ((∃ op, ofRange address kind method first count = .ok op) ↔
        first + count ≤ maxRegister ∧ count = method.parameterSize) ∧
      ∀ op, ofRange address kind method first count = .ok op →
        ofOperands address kind method (List.range' first count) = .ok op ∧
        ∀ (index offset : Nat) (declared : TypeName),
          method.offsets[index]? = some (offset, declared) →
            op.registers[index]? = some (first + offset) ∧ first + offset < UInt16.size) ∧
    (∀ operands op, ofOperands address kind method operands = .ok op →
      ∀ {σ : Type} (before : Analysis σ) (caller : Frame),
        before.registry.catalog.NarrowSupertypes →
        let types := ((Arguments.reconcile caller op.registers
          method.parameterTypes).run before).1
        (∀ placed ∈ Method.place 0 types,
          placed.1 + placed.2.registerSize < UInt16.size) ∧
        ∀ callee, op.Delivers operands caller types callee) ∧
    (Frame.forParameters method).HasParameters method ∧
    ∀ target, method.parameterSize ≤ target.parameterSize →
      (Frame.forMethod target).HasParameters method := by
  refine ⟨?offsets, ?listed, ?ranges, ?delivered, ?parameters, ?bodies⟩
  case offsets =>
    intro placed member
    exact Nat.lt_of_le_of_lt (Method.end_le_totalSize member) small
  case listed =>
    intro operands
    refine ⟨exists_ofOperands_iff address kind method operands, ?_⟩
    intro op built
    exact (collapses_of_ofOperands built).2
  case ranges =>
    intro first count
    refine ⟨exists_ofRange_iff address kind method first count, ?_⟩
    intro op built
    obtain ⟨inside, listed⟩ := ofRange_eq_ok.mp built
    refine ⟨listed, ?_⟩
    intro index offset declared placed
    have same := ((exists_ofRange_iff address kind method first count).mp ⟨op, built⟩).2
    have within := Method.offset_lt_of_mem_offsets (List.mem_of_getElem? placed)
    refine ⟨getElem?_registers_of_ofRange built placed, ?_⟩
    have greatest : maxRegister < UInt16.size := by decide
    simp only at within
    omega
  case delivered =>
    intro operands op built σ before caller narrow types
    obtain ⟨named, _, collapses⟩ := collapses_of_ofOperands built
    have typed : types = op.argumentTypes before caller := by
      simp only [types, ← named]
      exact Arguments.fst_run_reconcile caller op.registers op.method.parameterTypes before
    have sizes : types.map TypeName.registerSize =
        op.method.parameterTypes.map TypeName.registerSize := by
      rw [typed]
      exact registerSize_argumentTypes narrow op caller
    rw [← named] at small collapses
    refine ⟨?_, delivers_of_sizes sizes collapses⟩
    intro placed member
    exact Nat.lt_of_le_of_lt (end_le_of_mem_place sizes member) small
  case parameters => exact Frame.hasParameters_blank (Nat.le_refl _) (Nat.le_refl _)
  case bodies =>
    intro target room
    exact Frame.hasParameters_forMethod room

/-- The call of a method with a wide parameter, built in each way, and what the body of an
overriding method finds. -/
theorem operands_agree_storeLong :
    let method := storing "Lapp/Base;"
    let target := (storing "Lapp/Derived;").withBody 8
    let types := ((Arguments.reconcile withDerivedNode.frame storeLong.registers
      method.parameterTypes).run withDerived).1
    (method.parameterSize < UInt16.size ∧ withDerived.registry.catalog.NarrowSupertypes ∧
        ofOperands 0 { family := .virtual } method [0, 1, 2, 3] = .ok storeLong) ∧
      Collapses method [0, 1, 2, 3] storeLong.registers ∧
      (∃ op, ofRange 0 { family := .virtual } method 0 4 = .ok op) ∧
      (Frame.forMethod target).HasParameters method ∧
      storeLong.Delivers [0, 1, 2, 3] withDerivedNode.frame types (Frame.forMethod target) := by
  intro method target types
  have small : method.parameterSize < UInt16.size := by decide
  have built : ofOperands 0 { family := .virtual } method [0, 1, 2, 3] = .ok storeLong :=
    ofOperands_eq_ok.mpr ⟨by decide, ofRegisters_eq_ok.mpr ⟨rfl, rfl, rfl, by decide⟩⟩
  obtain ⟨_, listed, ranges, delivered, _, bodies⟩ :=
    operands_agree 0 { family := .virtual } method small
  have delivers := (delivered [0, 1, 2, 3] storeLong built withDerived withDerivedNode.frame
    narrowSupertypes_withDerived).2
  exact ⟨⟨small, narrowSupertypes_withDerived, built⟩,
    ((listed [0, 1, 2, 3]).2 storeLong built).2, (ranges 0 4).1.mpr (by decide),
    bodies target (by decide), delivers (Frame.forMethod target)⟩

end InvokeOp

end Callsite
