import Callsite.Proofs.Graph.Consensus
import Callsite.Proofs.Invoke.Operands

/-!
# The declared types of registers

Where a parameter lies is found out three times over: by the start of a frame and the offset
of the parameter, by a walk along the types from the first parameter register, and by the
number of registers that the types take together.  All three agree, and none of them meets a
number that needs more than 16 bits.  So of a register that no path has written, what is
assumed after a method returns is the type of the parameter that starts there, and nothing
but an object if none does.
-/

namespace Callsite

namespace Method

variable {method : Method} {types : List TypeName} {left right start offset position : Nat}
  {type : TypeName}

/-! ## Walks in 16 bits -/

/-- A sum of 16-bit numbers, nothing if it needs more bits. -/
def addShort? (left right : Nat) : Option Nat :=
  if left + right < UInt16.size then some (left + right) else none

/-- The sizes of types, added to a number one after another. -/
def addSizes? (types : List TypeName) (start : Nat) : Option Nat :=
  types.foldlM (fun sum type => addShort? sum type.registerSize) start

/-- Types placed one after another, up to the end of the last one. -/
def placeShort? (offset : Nat) : List TypeName → Option (List (Nat × TypeName))
  | [] => some []
  | type :: rest => do
      let next ← addShort? offset type.registerSize
      let later ← placeShort? next rest
      return (offset, type) :: later

/-- The type that starts at a register, found by a walk along the types that stops there. -/
def walkTo? (register current : Nat) : List TypeName → Option (Option TypeName)
  | [] => some none
  | type :: rest =>
      if current = register then
        some (some type)
      else do
        let next ← addShort? current type.registerSize
        walkTo? register next rest

theorem addShort?_of_lt (small : left + right < UInt16.size) :
    addShort? left right = some (left + right) := if_pos small

theorem addSizes?_eq (small : start + totalSize types < UInt16.size) :
    addSizes? types start = some (start + totalSize types) := by
  induction types generalizing start with
  | nil => rfl
  | cons type rest ih =>
      rw [totalSize_cons, ← Nat.add_assoc] at small ⊢
      rw [addSizes?, List.foldlM_cons, addShort?_of_lt (by omega)]
      exact ih small

theorem placeShort?_eq (small : offset + totalSize types < UInt16.size) :
    placeShort? offset types = some (place offset types) := by
  induction types generalizing offset with
  | nil => rfl
  | cons type rest ih =>
      rw [totalSize_cons, ← Nat.add_assoc] at small
      simp only [placeShort?, addShort?_of_lt (show offset + type.registerSize < UInt16.size by
        omega), Option.bind_eq_bind, Option.bind_some, ih small]
      rfl

theorem walkTo?_eq (small : start + totalSize types < UInt16.size) (register : Nat) :
    walkTo? register start types =
      some (((place start types).find? fun placed => placed.1 == register).map Prod.snd) := by
  induction types generalizing start with
  | nil => rfl
  | cons type rest ih =>
      rw [totalSize_cons, ← Nat.add_assoc] at small
      rw [walkTo?, place]
      split
      · next here => rw [List.find?_cons_of_pos (by simpa using here), Option.map_some]
      · next elsewhere =>
          -- Only here the walk goes on, so it adds no more than placing all types does.
          rw [List.find?_cons_of_neg (by simpa using elsewhere), addShort?_of_lt (by omega)]
          exact ih small

/-! ## Positions of parameters -/

/-- Types are placed in the same way from any start. -/
theorem place_eq_map (start offset : Nat) (types : List TypeName) :
    place (start + offset) types =
      (place offset types).map fun placed => (start + placed.1, placed.2) := by
  induction types generalizing offset with
  | nil => rfl
  | cons type rest ih => rw [place, place, List.map_cons, Nat.add_assoc, ih]

/-- The type that is placed at a position is the only one that starts there. -/
theorem find?_place (member : (position, type) ∈ place offset types) :
    (place offset types).find? (fun placed => placed.1 == position) =
      some (position, type) := by
  induction types generalizing offset with
  | nil => cases member
  | cons head rest ih =>
      rw [place] at member ⊢
      rcases List.mem_cons.mp member with here | later
      · cases here
        rw [List.find?_cons_of_pos (by simp)]
      · have behind := (bounds_of_mem_place later).1
        have positive := head.registerSize_pos
        have different : offset ≠ position := by omega
        rw [List.find?_cons_of_neg (by simpa using different), ih later]

/-- Of two placed types the second starts where the first has ended. -/
theorem end_le_of_mem_place_of_lt {other : TypeName}
    (member : (left, type) ∈ place offset types)
    (otherMember : (right, other) ∈ place offset types) (before : left < right) :
    left + type.registerSize ≤ right := by
  induction types generalizing offset with
  | nil => cases member
  | cons head rest ih =>
      rw [place] at member otherMember
      rcases List.mem_cons.mp member with here | later
      · cases here
        rcases List.mem_cons.mp otherMember with same | behind
        · cases same
          omega
        · exact (bounds_of_mem_place behind).1
      · rcases List.mem_cons.mp otherMember with first | behind
        · cases first
          have bounds := bounds_of_mem_place later
          omega
        · exact ih later behind

theorem typeAt?_of_mem_offsets (member : (offset, type) ∈ method.offsets) (start : Nat) :
    method.typeAt? start (start + offset) = some type := by
  have moved : (start + offset, type) ∈ place start method.parameterTypes := by
    rw [← Nat.add_zero start, place_eq_map]
    exact List.mem_map.mpr ⟨(offset, type), member, rfl⟩
  rw [typeAt?, find?_place moved, Option.map_some]

theorem typeAt?_eq_none {number : Nat}
    (elsewhere : ∀ placed ∈ method.offsets, number ≠ start + placed.1) :
    method.typeAt? start number = none := by
  rw [typeAt?, Option.map_eq_none_iff, List.find?_eq_none, ← Nat.add_zero start, place_eq_map]
  intro placed member
  obtain ⟨original, listed, rfl⟩ := List.mem_map.mp member
  simpa using (elsewhere original listed).symm

end Method

/-! ## Registers that no path has written -/

/-- No end of a path that returns has written a register. -/
def Graph.LeavesUnwritten (graph : Graph) (number : Nat) : Prop :=
  ∀ node ∈ graph.terminating, node.frame.get? (.index number) = none

namespace Method

variable {method : Method} {start number : Nat} {type : TypeName}

/-- What is assumed of a register that no path through a method has written is an unknown
value of a type. -/
def DeclaresAt (method : Method) (number : Nat) (type : TypeName) : Prop :=
  ∀ (graph : Graph) (catalog : Catalog), graph.method = method →
    graph.LeavesUnwritten number →
      graph.consensusItem catalog (.index number) = TypedValue.unknown type

theorem declaresAt_typeAt? (method : Method) (number : Nat) :
    method.DeclaresAt number
      ((method.typeAt? (Frame.forMethod method).parameterStart number).getD
        TypeName.object) := by
  intro graph catalog same unwritten
  have nothing : graph.observed (.index number) = [] := List.filterMap_eq_nil_iff.mpr unwritten
  rw [Graph.consensusItem, graph.consensus_of_observed_nil nothing, ← same]
  rfl

theorem declaresAt_of_mem_offsets {offset : Nat} (member : (offset, type) ∈ method.offsets) :
    method.DeclaresAt ((Frame.forMethod method).parameterStart + offset) type := by
  have declares :=
    method.declaresAt_typeAt? ((Frame.forMethod method).parameterStart + offset)
  rwa [typeAt?_of_mem_offsets member, Option.getD_some] at declares

theorem declaresAt_object
    (elsewhere : ∀ placed ∈ method.offsets,
      number ≠ (Frame.forMethod method).parameterStart + placed.1) :
    method.DeclaresAt number TypeName.object := by
  have declares := method.declaresAt_typeAt? number
  rwa [typeAt?_eq_none elsewhere, Option.getD_none] at declares

/-- The frame of a method, the offsets of its parameters and the types that are declared for
its registers agree, and what is added up on the way are numbers of 16 bits. -/
structure PositionsAgree (method : Method) : Prop where
  size : addSizes? method.parameterTypes 0 = some method.parameterSize
  registers : method.registerCount < UInt16.size
  start : (Frame.forMethod method).parameterStart + method.parameterSize = method.registerCount
  offsets : placeShort? 0 method.parameterTypes = some method.offsets
  /-- Each parameter ends within the frame. -/
  ends : ∀ placed ∈ method.offsets,
    (Frame.forMethod method).parameterStart + placed.1 + placed.2.registerSize ≤
      method.registerCount
  walk : ∀ register,
    walkTo? register (Frame.forMethod method).parameterStart method.parameterTypes =
      some (method.typeAt? (Frame.forMethod method).parameterStart register)
  /-- The register of a parameter is assumed to be of the type of the parameter. -/
  parameter : ∀ (index : Nat) (type : TypeName), method.parameterTypes[index]? = some type →
    ∃ offset, method.offsets[index]? = some (offset, type) ∧
      method.DeclaresAt ((Frame.forMethod method).parameterStart + offset) type
  /-- Any other register is assumed to be an object. -/
  other : ∀ number,
    (∀ placed ∈ method.offsets,
      number ≠ (Frame.forMethod method).parameterStart + placed.1) →
    method.DeclaresAt number TypeName.object
  /-- The registers before the parameters are other ones. -/
  localRegister : ∀ number, number < (Frame.forMethod method).parameterStart →
    method.DeclaresAt number TypeName.object
  /-- So is the second register of a wide parameter. -/
  secondHalf : ∀ placed ∈ method.offsets, placed.2.isWide = true →
    method.DeclaresAt ((Frame.forMethod method).parameterStart + placed.1 + 1)
      TypeName.object
  /-- So is what is no register of the frame. -/
  outside : ∀ number, method.registerCount ≤ number →
    method.DeclaresAt number TypeName.object

/-- Positions agree for all methods that can be built whose parameters fit a frame. -/
theorem positionsAgree (parsed : method.Parsed)
    (small : method.parameterSize < UInt16.size) : method.PositionsAgree := by
  have awaits := Frame.awaits_forMethod small fun _ asked => parsed.body_lt asked
  have start := awaits.parameters
  have registers := awaits.small
  rw [Frame.forMethod, Frame.registerCount_blank] at registers
  rw [Frame.forMethod, Frame.registerCount_blank, ← Frame.forMethod] at start
  have total : 0 + totalSize method.parameterTypes < UInt16.size := by
    rw [Nat.zero_add]
    exact small
  constructor
  case size =>
    have added := addSizes?_eq total
    rwa [Nat.zero_add] at added
  case registers => exact registers
  case start => exact start
  case offsets => exact placeShort?_eq total
  case ends =>
    intro placed member
    have within : placed.1 + placed.2.registerSize ≤ method.parameterSize :=
      end_le_totalSize member
    omega
  case walk =>
    exact walkTo?_eq (Nat.lt_of_le_of_lt (Nat.le_of_eq start) registers)
  case parameter =>
    intro index type declared
    obtain ⟨offset, placed⟩ := exists_getElem?_place declared 0
    exact ⟨offset, placed, declaresAt_of_mem_offsets (List.mem_of_getElem? placed)⟩
  case other => exact fun number elsewhere => declaresAt_object elsewhere
  case localRegister =>
    intro number before
    exact declaresAt_object fun placed member => by omega
  case secondHalf =>
    rintro ⟨offset, type⟩ member wide
    refine declaresAt_object ?_
    rintro ⟨next, other⟩ nextMember same
    -- What started at the second register would start before the wide parameter has ended.
    have twice : type.registerSize = 2 := by rw [TypeName.registerSize, wide]; rfl
    have apart := end_le_of_mem_place_of_lt member nextMember (by simp only at same; omega)
    simp only at same
    omega
  case outside =>
    intro number beyond
    refine declaresAt_object fun placed member => ?_
    have within := offset_lt_of_mem_offsets member
    omega

/-- Two paths through a method with a wide parameter, one of which has written a register of
its own. -/
def storingPaths : Graph where
  method := (InvokeOp.storing "Lapp/Base;").withBody 8
  nodes :=
    let method := (InvokeOp.storing "Lapp/Base;").withBody 8
    let blank : Activation := { method, frame := Frame.forMethod method, heap := 0 }
    let wrote := blank.withFrame (blank.frame.poke (.index 0) (TypedValue.int 1))
    #[{ address := 0, activation := blank, children := [1, 2] },
      { address := 1, activation := wrote },
      { address := 2, activation := blank }]

theorem positionsAgree_storing :
    let method := (InvokeOp.storing "Lapp/Base;").withBody 8
    (method.Parsed ∧ method.parameterSize < UInt16.size) ∧
      method.PositionsAgree ∧ storingPaths.terminating.length = 2 ∧
      storingPaths.consensusItem {} (.index 5) = TypedValue.unknown "J" ∧
      storingPaths.consensusItem {} (.index 6) = TypedValue.unknown TypeName.object := by
  intro method
  have named : parse (InvokeOp.storing "Lapp/Base;").signature AccessFlags.isPublic =
      .ok (InvokeOp.storing "Lapp/Base;") := by decide +kernel
  have parsed : method.Parsed := .withBody (.bodiless named) (by decide)
  have small : method.parameterSize < UInt16.size := by decide
  have agree := positionsAgree parsed small
  have wide : (1, "J") ∈ method.offsets := by decide
  have first : storingPaths.LeavesUnwritten 5 := by
    unfold Graph.LeavesUnwritten
    decide +kernel
  have second : storingPaths.LeavesUnwritten 6 := by
    unfold Graph.LeavesUnwritten
    decide +kernel
  obtain ⟨offset, placed, declares⟩ := agree.parameter 1 "J" (by decide)
  have here : method.offsets[1]? = some (1, "J") := by decide
  rw [here] at placed
  cases placed
  have half := agree.secondHalf (1, "J") wide (by decide)
  have start : (Frame.forMethod method).parameterStart = 4 := by decide
  rw [start] at declares half
  exact ⟨⟨parsed, small⟩, agree, by decide +kernel, declares storingPaths {} rfl first,
    half storingPaths {} rfl second⟩

end Method

end Callsite
