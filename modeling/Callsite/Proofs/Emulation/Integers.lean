import Callsite.Proofs.Emulation.Calls
import Callsite.Proofs.Text.Numeral

/-!
# Integers that are written and read

A reflected method and the emulated character buffer write integers, and an emulated method
reads them.  What was written is read back, and what can be read at all are the numerals of
integers of 32 bits.
-/

namespace Callsite.JavaLang

-- Powers are those of the core library, also where another library adds its own.
attribute [local instance (high)] instPowNat Int.instNatPow

variable {heap changed grown : Heap} {item builder : TypedValue} {text content : String}
  {number : Int32} {handle new : Handle}

/-! ## Reading -/

/-- Reading a string returns an integer. -/
def ParsesTo (heap : Heap) (item : TypedValue) (number : Int32) : Prop :=
  Emulated.integerParseInt.ComesTo [item] heap
    (EmulatedReturn.returning .nothing (TypedValue.int number) heap)

/-- Reading a string raises one exception, for text that is no numeral, and writes nothing. -/
def RefusesNumeral (heap : Heap) (item : TypedValue) (text : String) : Prop :=
  Emulated.integerParseInt.ComesTo [item] heap
    (EmulatedReturn.raising (numberFormat ("For input string: \"" ++ text ++ "\"")) heap)

/-- Text is the numeral of an integer of 32 bits. -/
def IsIntNumeral (text : String) : Prop :=
  ∃ value, Decimal.Numeral text.toList value ∧ -2 ^ 31 ≤ value ∧ value < 2 ^ 31

theorem parseInt?_eq_some_iff :
    EmulatedCall.parseInt? text = some number ↔
      Decimal.Numeral text.toList number.toInt := by
  have lower := number.le_toInt
  have upper := number.toInt_lt
  rw [EmulatedCall.parseInt?, ← Decimal.integer?_eq_some_iff]
  cases Decimal.integer? text.toList with
  | none => simp
  | some value =>
      simp only [Option.some.injEq]
      split
      · next fits =>
          rw [Option.some.injEq, ← Int32.toInt_inj, Int32.toInt_ofInt_of_le fits.1 fits.2]
      · next outside =>
          constructor
          · nofun
          · rintro rfl
            exact absurd ⟨lower, upper⟩ outside

/-- A text is read exactly if it is the numeral of an integer of 32 bits. -/
theorem exists_parseInt?_iff :
    (∃ number, EmulatedCall.parseInt? text = some number) ↔ IsIntNumeral text := by
  simp only [parseInt?_eq_some_iff]
  constructor
  · rintro ⟨number, numeral⟩
    exact ⟨_, numeral, number.le_toInt, number.toInt_lt⟩
  · rintro ⟨value, numeral, lower, upper⟩
    refine ⟨Int32.ofInt value, ?_⟩
    rw [Int32.toInt_ofInt_of_le lower upper]
    exact numeral

theorem parseInt?_ofInt (number : Int32) :
    EmulatedCall.parseInt? (Decimal.ofInt number.toInt) = some number := by
  rw [parseInt?_eq_some_iff, ← Decimal.integer?_eq_some_iff, Decimal.integer?_ofInt]

/-- What `parseInt` comes to, for any string. -/
theorem parseInt_of_holds (holds : heap.HoldsString item text) :
    Emulated.integerParseInt.ComesTo [item] heap
      (match EmulatedCall.parseInt? text with
        | some number => EmulatedReturn.returning .nothing (TypedValue.int number) heap
        | none =>
            EmulatedReturn.raising (numberFormat ("For input string: \"" ++ text ++ "\""))
              heap) := by
  refine Emulated.comesTo_of_run rfl fun call same presents => ?_
  subst same
  have passed : call.argument 0 = item := EmulatedCall.argument_of_presents presents rfl
  obtain ⟨handle, refers, found⟩ := holds
  have content := EmulatedCall.stringArgument_of_get (passed ▸ refers) found
  simp only [EmulatedCall.run, content, bind, Except.bind]
  cases EmulatedCall.parseInt? text with
  | none => rfl
  | some number => rfl

/-- A string is read as an integer exactly if it is its numeral. -/
theorem parsesTo_iff (holds : heap.HoldsString item text) :
    ParsesTo heap item number ↔ Decimal.Numeral text.toList number.toInt := by
  have comesTo := parseInt_of_holds holds
  rw [← parseInt?_eq_some_iff]
  cases read : EmulatedCall.parseInt? text with
  | none =>
      simp only [read] at comesTo
      constructor
      · intro parses
        obtain ⟨frame, result, _⟩ := comesTo.unique parses
        cases result
      · nofun
  | some other =>
      simp only [read] at comesTo
      constructor
      · intro parses
        obtain ⟨frame, _, written⟩ := comesTo.unique parses
        have items := congrArg (fun frame => frame.get? .returned) written
        simp only [EmulatedReturn.returning, Frame.get?_assign, Frame.has, and_self, if_true,
          Option.some.injEq, TypedValue.int, TypedValue.mk.injEq, Value.int.injEq,
          and_true] at items
        rw [items]
      · intro same
        cases same
        exact comesTo

theorem exists_parsesTo_iff (holds : heap.HoldsString item text) :
    (∃ number, ParsesTo heap item number) ↔ IsIntNumeral text := by
  simp only [parsesTo_iff holds, ← parseInt?_eq_some_iff]
  exact exists_parseInt?_iff

theorem refusesNumeral_of_holds (holds : heap.HoldsString item text)
    (noNumeral : ¬ IsIntNumeral text) : RefusesNumeral heap item text := by
  have comesTo := parseInt_of_holds holds
  rw [← exists_parseInt?_iff] at noNumeral
  cases read : EmulatedCall.parseInt? text with
  | some number => exact absurd ⟨number, read⟩ noNumeral
  | none =>
      simp only [read] at comesTo
      exact comesTo

/-! ## Writing -/

theorem toString_of_int (allocated :
      heap.alloc (.string (Decimal.ofInt number.toInt)) = .ok (new, grown)) :
    Reflected.integerToString.ComesTo [TypedValue.int number] heap
      (.ok (TypedValue.reference new TypeName.string, grown)) := by
  refine Reflected.comesTo_of_result rfl fun call same presents => ?_
  subst same
  have argument : call.intArgument 0 = .ok number.toInt :=
    ReflectedCall.intArgument_of_presents presents rfl
  simp only [ReflectedCall.result, argument, bind, Except.bind, ReflectedCall.newString,
    allocated]

/-- Appending an integer changes the buffer of a handle and returns the buffer. -/
theorem append_of_int (refers : builder.handle? = some handle)
    (found : heap.get handle = .ok (.builder content))
    (replaced : heap.replace handle (.builder (content ++ Decimal.ofInt number.toInt)) =
      .ok changed) :
    Emulated.builderAppendInt.ComesTo [builder, TypedValue.int number] heap
      (EmulatedReturn.returning .weak builder changed) := by
  refine Emulated.comesTo_of_run rfl fun call same presents => ?_
  subst same
  have receiver : call.argument 0 = builder := EmulatedCall.argument_of_presents presents rfl
  have passed : call.argument 1 = TypedValue.int number :=
    EmulatedCall.argument_of_presents presents rfl
  have buffer := EmulatedCall.builder_of_get (receiver ▸ refers) found
  simp only [EmulatedCall.run, passed, TypedValue.int, Value.integer?, EmulatedCall.append,
    buffer, bind, Except.bind, replaced, receiver]
  rfl

theorem toString_of_builder (refers : builder.handle? = some handle)
    (found : heap.get handle = .ok (.builder content))
    (allocated : heap.alloc (.string content) = .ok (new, grown)) :
    Emulated.builderToString.ComesTo [builder] heap
      (EmulatedReturn.returning .nothing (TypedValue.reference new TypeName.string) grown) := by
  refine Emulated.comesTo_of_run rfl fun call same presents => ?_
  subst same
  have receiver : call.argument 0 = builder := EmulatedCall.argument_of_presents presents rfl
  have buffer := EmulatedCall.builder_of_get (receiver ▸ refers) found
  simp only [EmulatedCall.run, buffer, bind, Except.bind, EmulatedCall.returnNew, allocated]
  rfl

/-! ## Writing and reading back -/

theorem exists_toString_parsesTo (room : heap.size < heap.capacity) (number : Int32) :
    ∃ text grown,
      Reflected.integerToString.ComesTo [TypedValue.int number] heap (.ok (text, grown)) ∧
        ParsesTo grown text number := by
  obtain ⟨new, grown, allocated⟩ :=
    Heap.exists_alloc room (.string (Decimal.ofInt number.toInt))
  refine ⟨_, _, toString_of_int allocated, ?_⟩
  rw [parsesTo_iff (Heap.holdsString_alloc allocated), ← parseInt?_eq_some_iff]
  exact parseInt?_ofInt number

theorem exists_append_parsesTo (room : heap.size < heap.capacity) (number : Int32)
    (refers : builder.handle? = some handle)
    (found : heap.get handle = .ok (.builder "")) :
    ∃ changed text grown,
      Emulated.builderAppendInt.ComesTo [builder, TypedValue.int number] heap
        (EmulatedReturn.returning .weak builder changed) ∧
      Emulated.builderToString.ComesTo [builder] changed
        (EmulatedReturn.returning .nothing text grown) ∧
      ParsesTo grown text number := by
  obtain ⟨slot, resolved, _⟩ := heap.get_eq_ok.mp found
  have replaced : heap.replace handle (.builder ("" ++ Decimal.ofInt number.toInt)) =
      .ok (heap.set slot (.builder ("" ++ Decimal.ofInt number.toInt))) := by
    rw [Heap.replace, resolved]
  have changed := Heap.get_replace_of_same rfl replaced
    (Heap.sameIdentity_self (Heap.resolves_iff_exists_get.mpr ⟨_, found⟩))
  rw [String.empty_append] at changed replaced
  -- A buffer changes in place, so the heap has as much room for the string as before.
  have stillRoom : (heap.set slot (.builder (Decimal.ofInt number.toInt))).size <
      (heap.set slot (.builder (Decimal.ofInt number.toInt))).capacity := by
    rw [Heap.size_set, Heap.capacity_set]
    exact room
  obtain ⟨new, grown, allocated⟩ :=
    Heap.exists_alloc stillRoom (.string (Decimal.ofInt number.toInt))
  refine ⟨_, _, _, append_of_int refers found replaced,
    toString_of_builder refers changed allocated, ?_⟩
  rw [parsesTo_iff (Heap.holdsString_alloc allocated), ← parseInt?_eq_some_iff]
  exact parseInt?_ofInt number

/-- Writing and reading of integers on a heap. -/
structure IntegerLaws (heap : Heap) : Prop where
  /-- What `toString` writes is read back. -/
  toString : heap.size < heap.capacity → ∀ number, ∃ text grown,
    Reflected.integerToString.ComesTo [TypedValue.int number] heap (.ok (text, grown)) ∧
      ParsesTo grown text number
  /-- What an empty character buffer makes of an integer is read back. -/
  append : heap.size < heap.capacity → ∀ number builder handle,
    builder.handle? = some handle → heap.get handle = .ok (.builder "") →
    ∃ changed text grown,
      Emulated.builderAppendInt.ComesTo [builder, TypedValue.int number] heap
        (EmulatedReturn.returning .weak builder changed) ∧
      Emulated.builderToString.ComesTo [builder] changed
        (EmulatedReturn.returning .nothing text grown) ∧
      ParsesTo grown text number
  /-- The numerals of integers of 32 bits are read. -/
  accepts : ∀ item text, heap.HoldsString item text →
    ((∃ number, ParsesTo heap item number) ↔ IsIntNumeral text)
  /-- A numeral is read as what it stands for. -/
  value : ∀ item text, heap.HoldsString item text → ∀ number,
    (ParsesTo heap item number ↔ Decimal.Numeral text.toList number.toInt)
  /-- Other strings raise one exception. -/
  refuses : ∀ item text, heap.HoldsString item text → ¬ IsIntNumeral text →
    RefusesNumeral heap item text

/-- Integers that are written can be read, and the numerals of integers are all that can be. -/
theorem integerLaws (heap : Heap) : IntegerLaws heap where
  toString := exists_toString_parsesTo
  append room number _ _ := exists_append_parsesTo room number
  accepts _ _ := exists_parsesTo_iff
  value _ _ holds _ := parsesTo_iff holds
  refuses _ _ := refusesNumeral_of_holds

/-- An empty buffer and two strings of digits, the second of which is no integer of 32 bits. -/
def numeralHeap : Heap :=
  { slots := #[.builder "", .string "-002147483648", .string "2147483648"], capacity := 4 }

theorem integerLaws_numeralHeap :
    (∃ text grown,
      Reflected.integerToString.ComesTo [TypedValue.int Int32.minValue] numeralHeap
        (.ok (text, grown)) ∧ ParsesTo grown text Int32.minValue) ∧
    (∃ changed text grown,
      Emulated.builderAppendInt.ComesTo
        [TypedValue.reference 0 TypeName.stringBuilder, TypedValue.int Int32.minValue]
        numeralHeap
        (EmulatedReturn.returning .weak (TypedValue.reference 0 TypeName.stringBuilder)
          changed) ∧
      Emulated.builderToString.ComesTo [TypedValue.reference 0 TypeName.stringBuilder] changed
        (EmulatedReturn.returning .nothing text grown) ∧
      ParsesTo grown text Int32.minValue) ∧
    ParsesTo numeralHeap (TypedValue.reference 1 TypeName.string) Int32.minValue ∧
    RefusesNumeral numeralHeap (TypedValue.reference 2 TypeName.string) "2147483648" := by
  have room : numeralHeap.size < numeralHeap.capacity := by decide
  have first : numeralHeap.HoldsString (TypedValue.reference 1 TypeName.string)
      "-002147483648" := ⟨1, rfl, by decide⟩
  have second : numeralHeap.HoldsString (TypedValue.reference 2 TypeName.string)
      "2147483648" := ⟨2, rfl, by decide⟩
  have laws := integerLaws numeralHeap
  refine ⟨laws.toString room _, laws.append room _ _ 0 rfl (by decide), ?_, ?_⟩
  · rw [laws.value _ _ first, ← Decimal.integer?_eq_some_iff]
    decide
  · apply laws.refuses _ _ second
    have unread : EmulatedCall.parseInt? "2147483648" = none := by decide
    simp [← exists_parseInt?_iff, unread]

end Callsite.JavaLang
