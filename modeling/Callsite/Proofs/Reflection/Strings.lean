import Callsite.Proofs.Emulation.Calls
import Callsite.Proofs.Text.Utf16

/-!
# Strings as the reflected methods see them

The heap holds strings as characters, and the reflected methods of strings count UTF-16
units.  What they say of a string is its sequence of units and nothing else: `length` and
`charAt` read the sequence, `concat` joins two sequences, and `equals`, which compares
characters, tells whether two sequences are the same.
-/

namespace Callsite.JavaLang

-- Powers are those of the core library, also where another library adds its own.
attribute [local instance (high)] instPowNat Int.instNatPow

/-! ## What the reflected methods say of a string -/

/-- `length` says that a string has a length. -/
def HasLength (heap : Heap) (item : TypedValue) (length : Int32) : Prop :=
  Reflected.stringLength.ComesTo [item] heap (.ok (TypedValue.int length, heap))

/-- `charAt` says that a string has a unit at a position. -/
def HasUnitAt (heap : Heap) (item : TypedValue) (position : Int32) (unit : UInt16) : Prop :=
  Reflected.stringCharAt.ComesTo [item, TypedValue.int position] heap
    (.ok (⟨.char unit, "C"⟩, heap))

/-- The units that `charAt` says a string has are those of a sequence, each at its index. -/
def HasUnits (heap : Heap) (item : TypedValue) (units : List UInt16) : Prop :=
  ∀ position unit, HasUnitAt heap item position unit ↔
    0 ≤ position.toInt ∧ units[position.toInt.toNat]? = some unit

/-- `charAt` raises an exception for a position. -/
def RefusesPosition (heap : Heap) (item : TypedValue) (position : Int32) : Prop :=
  ∃ message, Reflected.stringCharAt.ComesTo [item, TypedValue.int position] heap
    (.error (.thrown "Ljava/lang/StringIndexOutOfBoundsException;" message))

/-- `equals` says whether two strings are the same. -/
def Compares (heap : Heap) (first second : TypedValue) (equal : Bool) : Prop :=
  Reflected.stringEquals.ComesTo [first, second] heap (.ok (⟨.boolean equal, "Z"⟩, heap))

variable {heap grown : Heap} {item first second : TypedValue} {text left right : String}
  {position : Int32} {unit : UInt16}

theorem hasLength_of_holds (holds : heap.HoldsString item text)
    (short : (Utf16.units text).length < 2 ^ (31 : Nat)) :
    HasLength heap item (Int32.ofNat (Utf16.units text).length) := by
  refine Reflected.comesTo_of_result rfl fun call same presents => ?_
  subst same
  have content : call.requiredString 0 = .ok text :=
    ReflectedCall.requiredString_of_presents presents rfl holds
  have notCut : min (Utf16.units text).length (2 ^ (31 : Nat) - 1) =
      (Utf16.units text).length := by omega
  simp only [ReflectedCall.result, content, bind, Except.bind, notCut]
  rfl

/-- What `charAt` comes to, for any position. -/
theorem charAt_of_holds (holds : heap.HoldsString item text) (position : Int32) :
    Reflected.stringCharAt.ComesTo [item, TypedValue.int position] heap
      (if position.toInt < 0 then
        .error (ReflectedCall.outOfBounds position.toInt (Utf16.units text).length)
      else
        match (Utf16.units text)[position.toInt.toNat]? with
        | some unit => .ok (⟨.char unit, "C"⟩, heap)
        | none =>
            .error (ReflectedCall.outOfBounds position.toInt (Utf16.units text).length)) := by
  refine Reflected.comesTo_of_result rfl fun call same presents => ?_
  subst same
  have content : call.requiredString 0 = .ok text :=
    ReflectedCall.requiredString_of_presents presents rfl holds
  have number : call.intArgument 1 = .ok position.toInt :=
    ReflectedCall.intArgument_of_presents presents rfl
  simp only [ReflectedCall.result, content, number, bind, Except.bind]
  rfl

theorem hasUnits_of_holds (holds : heap.HoldsString item text) :
    HasUnits heap item (Utf16.units text) := by
  intro position unit
  have comesTo := charAt_of_holds holds position
  constructor
  · intro has
    have same := comesTo.unique has
    split at same
    · cases same
    next inside =>
    split at same
    · next found =>
        cases same
        exact ⟨by omega, found⟩
    · cases same
  · rintro ⟨nonnegative, found⟩
    rw [if_neg (by omega), found] at comesTo
    exact comesTo

theorem refusesPosition_iff (holds : heap.HoldsString item text) :
    RefusesPosition heap item position ↔
      position.toInt < 0 ∨ (Utf16.units text).length ≤ position.toInt := by
  have comesTo := charAt_of_holds holds position
  constructor
  · rintro ⟨message, refuses⟩
    have same := comesTo.unique refuses
    split at same
    · next negative => exact .inl negative
    split at same
    · cases same
    · next absent =>
        rw [List.getElem?_eq_none_iff] at absent
        omega
  · intro outside
    split at comesTo
    · exact ⟨_, comesTo⟩
    · next inside =>
        rw [List.getElem?_eq_none (by omega)] at comesTo
        exact ⟨_, comesTo⟩

theorem concat_of_holds (holdsFirst : heap.HoldsString first left)
    (holdsSecond : heap.HoldsString second right) {new : Handle}
    (allocated : heap.alloc (.string (left ++ right)) = .ok (new, grown)) :
    Reflected.stringConcat.ComesTo [first, second] heap
      (.ok (TypedValue.reference new TypeName.string, grown)) := by
  refine Reflected.comesTo_of_result rfl fun call same presents => ?_
  subst same
  have content : call.requiredString 0 = .ok left :=
    ReflectedCall.requiredString_of_presents presents rfl holdsFirst
  have suffix : call.requiredString 1 = .ok right :=
    ReflectedCall.requiredString_of_presents presents rfl holdsSecond
  simp only [ReflectedCall.result, content, suffix, bind, Except.bind,
    ReflectedCall.newString, allocated]

theorem compares_of_holds (holdsFirst : heap.HoldsString first left)
    (holdsSecond : heap.HoldsString second right) :
    Compares heap first second (right == left) := by
  refine Reflected.comesTo_of_result rfl fun call same presents => ?_
  subst same
  have content : call.requiredString 0 = .ok left :=
    ReflectedCall.requiredString_of_presents presents rfl holdsFirst
  have other : call.argument 1 = .ok second :=
    ReflectedCall.argument_of_presents presents rfl holdsSecond.isUnknown
  simp only [ReflectedCall.result, content, other, bind, Except.bind,
    ReflectedCall.isString_of_holds holdsSecond]
  rfl

/-! ## The laws of sequences -/

/-- The reflected methods describe two strings and the string that `concat` makes of them as
two sequences of units and the sequence that joins them.  The two strings read the same
before and after. -/
structure SequenceLaws (heap grown : Heap) (first second joined : TypedValue)
    (left right : List UInt16) : Prop where
  concat : Reflected.stringConcat.ComesTo [first, second] heap (.ok (joined, grown))
  hasFirstLength : ∀ state ∈ [heap, grown], HasLength state first (Int32.ofNat left.length)
  hasSecondLength : ∀ state ∈ [heap, grown], HasLength state second (Int32.ofNat right.length)
  hasJoinedLength :
    HasLength grown joined (Int32.ofNat left.length + Int32.ofNat right.length)
  /-- The sum of the lengths does not wrap. -/
  noWrap : (Int32.ofNat left.length + Int32.ofNat right.length).toInt =
    left.length + right.length
  hasFirstUnits : ∀ state ∈ [heap, grown], HasUnits state first left
  hasSecondUnits : ∀ state ∈ [heap, grown], HasUnits state second right
  hasJoinedUnits : HasUnits grown joined (left ++ right)
  firstUnits : ∀ state ∈ [heap, grown], ∀ position,
    0 ≤ position → position < Int32.ofNat left.length →
    ∃ unit, HasUnitAt grown joined position unit ∧ HasUnitAt state first position unit
  secondUnits : ∀ state ∈ [heap, grown], ∀ position,
    Int32.ofNat left.length ≤ position →
    position < Int32.ofNat left.length + Int32.ofNat right.length →
    ∃ unit, HasUnitAt grown joined position unit ∧
      HasUnitAt state second (position - Int32.ofNat left.length) unit
  firstRefuses : ∀ state ∈ [heap, grown], ∀ position,
    RefusesPosition state first position ↔ position < 0 ∨ Int32.ofNat left.length ≤ position
  secondRefuses : ∀ state ∈ [heap, grown], ∀ position,
    RefusesPosition state second position ↔ position < 0 ∨ Int32.ofNat right.length ≤ position
  joinedRefuses : ∀ position,
    RefusesPosition grown joined position ↔
      position < 0 ∨ Int32.ofNat left.length + Int32.ofNat right.length ≤ position
  equality : ∀ state ∈ [heap, grown], ∃ equal, Compares state first second equal ∧
    (equal = true ↔ Int32.ofNat left.length = Int32.ofNat right.length ∧
      ∀ position, 0 ≤ position → position < Int32.ofNat left.length →
        ∃ unit, HasUnitAt state first position unit ∧ HasUnitAt state second position unit)

/-- Positions are refused below zero and from the length on. -/
theorem refusesPosition_iff_length (holds : heap.HoldsString item text)
    (short : (Utf16.units text).length < 2 ^ (31 : Nat)) :
    RefusesPosition heap item position ↔
      position < 0 ∨ Int32.ofNat (Utf16.units text).length ≤ position := by
  rw [refusesPosition_iff holds, Int32.lt_iff_toInt_lt, Int32.le_iff_toInt_le,
    Int32.toInt_ofNat_of_lt short, Int32.toInt_zero]

/-- Two strings are the same if they have the same length and the same units. -/
theorem eq_iff_units (holdsFirst : heap.HoldsString first left)
    (holdsSecond : heap.HoldsString second right)
    (leftShort : (Utf16.units left).length < 2 ^ (31 : Nat))
    (rightShort : (Utf16.units right).length < 2 ^ (31 : Nat)) :
    left = right ↔
      Int32.ofNat (Utf16.units left).length = Int32.ofNat (Utf16.units right).length ∧
      ∀ position, 0 ≤ position → position < Int32.ofNat (Utf16.units left).length →
        ∃ unit, HasUnitAt heap first position unit ∧ HasUnitAt heap second position unit := by
  simp only [hasUnits_of_holds holdsFirst _ _, hasUnits_of_holds holdsSecond _ _, Int32.lt_iff_toInt_lt,
    Int32.le_iff_toInt_le, Int32.toInt_ofNat_of_lt leftShort, Int32.toInt_zero]
  constructor
  · rintro rfl
    refine ⟨rfl, fun position nonnegative inside => ?_⟩
    have found := List.getElem?_eq_getElem
      (show position.toInt.toNat < (Utf16.units left).length by omega)
    exact ⟨_, ⟨nonnegative, found⟩, nonnegative, found⟩
  · rintro ⟨sameLength, sameUnits⟩
    have lengths := congrArg Int32.toInt sameLength
    rw [Int32.toInt_ofNat_of_lt leftShort, Int32.toInt_ofNat_of_lt rightShort] at lengths
    rw [← Utf16.units_inj]
    -- Every index is a position of both strings, and `charAt` says the same of both there.
    refine List.ext_getElem (by omega) fun index inLeft inRight => ?_
    have position : (Int32.ofNat index).toInt = index := Int32.toInt_ofNat_of_lt (by omega)
    obtain ⟨unit, ⟨_, inFirst⟩, _, inSecond⟩ :=
      sameUnits (Int32.ofNat index) (by omega) (by omega)
    rw [position, Int.toNat_natCast, List.getElem?_eq_getElem inLeft] at inFirst
    rw [position, Int.toNat_natCast, List.getElem?_eq_getElem inRight] at inSecond
    exact Option.some.inj (inFirst.trans inSecond.symm)

section Joined

variable {state : Heap} {joined : TypedValue}
  (holdsJoined : grown.HoldsString joined (left ++ right))
  (short : (Utf16.units left).length + (Utf16.units right).length < 2 ^ (31 : Nat))
include holdsJoined short

/-- Before the length of the first string, the joined string has the units of the first. -/
theorem exists_unit_of_lt (holdsFirst : state.HoldsString first left)
    (nonnegative : 0 ≤ position)
    (inside : position < Int32.ofNat (Utf16.units left).length) :
    ∃ unit, HasUnitAt grown joined position unit ∧ HasUnitAt state first position unit := by
  rw [Int32.le_iff_toInt_le, Int32.toInt_zero] at nonnegative
  rw [Int32.lt_iff_toInt_lt, Int32.toInt_ofNat_of_lt (by omega)] at inside
  have within : position.toInt.toNat < (Utf16.units left).length := by omega
  simp only [hasUnits_of_holds holdsJoined _ _, hasUnits_of_holds holdsFirst _ _, Utf16.units_append,
    List.getElem?_append_left within, List.getElem?_eq_getElem within]
  exact ⟨_, ⟨nonnegative, rfl⟩, nonnegative, rfl⟩

/-- From the length of the first string on, the joined string has the units of the second. -/
theorem exists_unit_of_le (holdsSecond : state.HoldsString second right)
    (behind : Int32.ofNat (Utf16.units left).length ≤ position)
    (inside : position <
      Int32.ofNat ((Utf16.units left).length + (Utf16.units right).length)) :
    ∃ unit, HasUnitAt grown joined position unit ∧
      HasUnitAt state second (position - Int32.ofNat (Utf16.units left).length) unit := by
  have length : (Int32.ofNat (Utf16.units left).length).toInt = (Utf16.units left).length :=
    Int32.toInt_ofNat_of_lt (by omega)
  have nonnegative : 0 ≤ Int32.ofNat (Utf16.units left).length := by
    rw [Int32.le_iff_toInt_le, length, Int32.toInt_zero]
    omega
  have distance := Int32.toInt_sub_of_le position _ nonnegative behind
  rw [Int32.le_iff_toInt_le, length] at behind
  rw [Int32.lt_iff_toInt_lt, Int32.toInt_ofNat_of_lt short] at inside
  have index : (position.toInt - (Utf16.units left).length).toNat =
      position.toInt.toNat - (Utf16.units left).length := by omega
  have within : position.toInt.toNat - (Utf16.units left).length <
      (Utf16.units right).length := by omega
  simp only [hasUnits_of_holds holdsJoined _ _, hasUnits_of_holds holdsSecond _ _, distance, length, index,
    Utf16.units_append]
  rw [List.getElem?_append_right (by omega), List.getElem?_eq_getElem within]
  exact ⟨_, ⟨by omega, rfl⟩, by omega, rfl⟩

end Joined

/-- Strings are sequences of UTF-16 units, whatever characters they consist of. -/
theorem exists_sequenceLaws (holdsFirst : heap.HoldsString first left)
    (holdsSecond : heap.HoldsString second right) (room : heap.size < heap.capacity)
    (short : (Utf16.units left).length + (Utf16.units right).length < 2 ^ (31 : Nat)) :
    ∃ joined grown,
      SequenceLaws heap grown first second joined (Utf16.units left) (Utf16.units right) := by
  obtain ⟨new, grown, allocated⟩ := Heap.exists_alloc room (.string (left ++ right))
  have holdsJoined := Heap.holdsString_alloc allocated
  have keepsFirst : ∀ state ∈ [heap, grown], state.HoldsString first left := by
    simp [holdsFirst, holdsFirst.alloc allocated]
  have keepsSecond : ∀ state ∈ [heap, grown], state.HoldsString second right := by
    simp [holdsSecond, holdsSecond.alloc allocated]
  have leftShort : (Utf16.units left).length < 2 ^ (31 : Nat) := by omega
  have rightShort : (Utf16.units right).length < 2 ^ (31 : Nat) := by omega
  have joined : (Utf16.units (left ++ right)).length =
      (Utf16.units left).length + (Utf16.units right).length := by
    rw [Utf16.units_append, List.length_append]
  have joinedShort : (Utf16.units (left ++ right)).length < 2 ^ (31 : Nat) := by omega
  refine ⟨TypedValue.reference new TypeName.string, grown, ?_⟩
  constructor
  case concat => exact concat_of_holds holdsFirst holdsSecond allocated
  case hasFirstLength =>
    exact fun state member => hasLength_of_holds (keepsFirst state member) leftShort
  case hasSecondLength =>
    exact fun state member => hasLength_of_holds (keepsSecond state member) rightShort
  case hasJoinedLength =>
    rw [← Int32.ofNat_add, ← joined]
    exact hasLength_of_holds holdsJoined joinedShort
  case noWrap =>
    rw [← Int32.ofNat_add, Int32.toInt_ofNat_of_lt short]
    exact Int.natCast_add _ _
  case hasFirstUnits =>
    exact fun state member => hasUnits_of_holds (keepsFirst state member)
  case hasSecondUnits =>
    exact fun state member => hasUnits_of_holds (keepsSecond state member)
  case hasJoinedUnits =>
    rw [← Utf16.units_append]
    exact hasUnits_of_holds holdsJoined
  case firstUnits =>
    exact fun state member position nonnegative inside =>
      exists_unit_of_lt holdsJoined short (keepsFirst state member) nonnegative inside
  case secondUnits =>
    intro state member position behind inside
    rw [← Int32.ofNat_add] at inside
    exact exists_unit_of_le holdsJoined short (keepsSecond state member) behind inside
  case firstRefuses =>
    exact fun state member _ =>
      refusesPosition_iff_length (keepsFirst state member) leftShort
  case secondRefuses =>
    exact fun state member _ =>
      refusesPosition_iff_length (keepsSecond state member) rightShort
  case joinedRefuses =>
    rw [← Int32.ofNat_add, ← joined]
    exact fun _ => refusesPosition_iff_length holdsJoined joinedShort
  case equality =>
    intro state member
    refine ⟨_, compares_of_holds (keepsFirst state member) (keepsSecond state member), ?_⟩
    rw [beq_iff_eq, eq_comm]
    exact eq_iff_units (keepsFirst state member) (keepsSecond state member) leftShort
      rightShort

/-- Two strings with characters of two units each, and room for one more string. -/
def emojiHeap : Heap :=
  { slots := #[.string "h😀", .string "😎é"], capacity := 3 }

theorem exists_sequenceLaws_emojiHeap :
    emojiHeap.HoldsString (TypedValue.reference 0 TypeName.string) "h😀" ∧
      emojiHeap.HoldsString (TypedValue.reference 1 TypeName.string) "😎é" ∧
      emojiHeap.size < emojiHeap.capacity ∧
      (Utf16.units "h😀").length + (Utf16.units "😎é").length < 2 ^ (31 : Nat) ∧
      ∃ joined grown,
        SequenceLaws emojiHeap grown (TypedValue.reference 0 TypeName.string)
          (TypedValue.reference 1 TypeName.string) joined
          [0x68, 0xD83D, 0xDE00] [0xD83D, 0xDE0E, 0xE9] := by
  have holdsFirst : emojiHeap.HoldsString (TypedValue.reference 0 TypeName.string) "h😀" :=
    ⟨0, rfl, by decide⟩
  have holdsSecond : emojiHeap.HoldsString (TypedValue.reference 1 TypeName.string) "😎é" :=
    ⟨1, rfl, by decide⟩
  have room : emojiHeap.size < emojiHeap.capacity := by decide
  have short : (Utf16.units "h😀").length + (Utf16.units "😎é").length < 2 ^ (31 : Nat) := by
    decide
  exact ⟨holdsFirst, holdsSecond, room, short,
    exists_sequenceLaws holdsFirst holdsSecond room short⟩

end Callsite.JavaLang
