import Callsite.Proofs.Catalog.Ancestors
import Callsite.Proofs.Frame.Identity
import Callsite.Proofs.Invoke.Plan

/-!
# Where arguments are found in the callee's frame

Arguments are placed by the types that they are passed as, and looked for by the
declared ones.  The two agree whenever types of one position are equally wide, and
then the parameter at each declared offset is the argument of that position.
-/

namespace Callsite

namespace Method

theorem map_fst_place {types others : List TypeName}
    (sizes : types.map TypeName.registerSize = others.map TypeName.registerSize)
    (offset : Nat) :
    (place offset types).map Prod.fst = (place offset others).map Prod.fst := by
  induction types generalizing others offset with
  | nil =>
      cases others with
      | nil => rfl
      | cons _ _ => cases sizes
  | cons type rest ih =>
      cases others with
      | nil => cases sizes
      | cons other others =>
          simp only [List.map_cons, List.cons.injEq] at sizes
          simp only [place, List.map_cons, List.cons.injEq, true_and]
          rw [sizes.1]
          exact ih sizes.2 _

/-- What is placed from an offset on lies between there and the total size. -/
theorem bounds_of_mem_place {types : List TypeName} {offset position : Nat} {type : TypeName}
    (member : (position, type) ∈ place offset types) :
    offset ≤ position ∧ position + type.registerSize ≤ offset + totalSize types := by
  induction types generalizing offset with
  | nil => cases member
  | cons head rest ih =>
      rw [totalSize_cons]
      rcases List.mem_cons.mp member with here | later
      · cases here
        omega
      · have bounds := ih later
        omega

/-- Nothing that is placed from the start ends after the total size. -/
theorem end_le_totalSize {types : List TypeName} {placed : Nat × TypeName}
    (member : placed ∈ place 0 types) :
    placed.1 + placed.2.registerSize ≤ totalSize types := by
  have bounds := (bounds_of_mem_place member).2
  rwa [Nat.zero_add] at bounds

/-- Each type is placed somewhere. -/
theorem exists_getElem?_place {types : List TypeName} {index : Nat} {type : TypeName}
    (listed : types[index]? = some type) (offset : Nat) :
    ∃ position, (place offset types)[index]? = some (position, type) := by
  have second := congrArg (·[index]?) (map_snd_place offset types)
  simp only [List.getElem?_map, listed] at second
  obtain ⟨⟨position, _⟩, placed, rfl⟩ := Option.map_eq_some_iff.mp second
  exact ⟨position, placed⟩

/-- Types of equal sizes are placed at the same offsets. -/
theorem exists_getElem?_place_of_sizes {types others : List TypeName}
    (sizes : types.map TypeName.registerSize = others.map TypeName.registerSize)
    {start index offset : Nat} {other : TypeName}
    (placed : (place start others)[index]? = some (offset, other)) :
    ∃ type, types[index]? = some type ∧
      (place start types)[index]? = some (offset, type) := by
  have firsts := congrArg (·[index]?) (map_fst_place sizes start)
  simp only [List.getElem?_map, placed] at firsts
  obtain ⟨⟨_, type⟩, here, rfl⟩ := Option.map_eq_some_iff.mp firsts
  have seconds := congrArg (·[index]?) (map_snd_place start types)
  simp only [List.getElem?_map, here] at seconds
  exact ⟨type, seconds.symm, here⟩

theorem pairwise_place (types : List TypeName) (offset : Nat) :
    (place offset types).Pairwise fun left right => left.1 < right.1 := by
  induction types generalizing offset with
  | nil => exact .nil
  | cons type rest ih =>
      refine .cons ?_ (ih _)
      rintro ⟨position, other⟩ member
      have bounds := bounds_of_mem_place member
      have positive := type.registerSize_pos
      simp only
      omega

end Method

namespace Frame

variable (frame : Frame)

@[simp] theorem parameterStart_assign (register : Register) (item : TypedValue) :
    (frame.assign register item).parameterStart = frame.parameterStart := by
  rw [assign]
  split
  · cases register <;> rfl
  · rfl

end Frame

namespace Arguments

variable {caller callee : Frame} {registers : List Nat} {types : List TypeName}

/-- Pass one argument. -/
def passOne (caller callee : Frame) (argument : Nat × Nat × TypeName) : Frame :=
  callee.assignParameter argument.2.1
    ((caller.peek (.index argument.1)).marshal argument.2.2)

theorem pass_eq_foldl (caller : Frame) (registers : List Nat) (types : List TypeName)
    (callee : Frame) :
    pass caller registers types callee =
      (registers.zip (Method.place 0 types)).foldl (passOne caller) callee := rfl

@[simp] theorem parameterStart_passOne (argument : Nat × Nat × TypeName) :
    (passOne caller callee argument).parameterStart = callee.parameterStart :=
  callee.parameterStart_assign _ _

/-- Arguments passed at other offsets leave a register as it is. -/
theorem get?_foldl_of_ne {arguments : List (Nat × Nat × TypeName)} {register : Register}
    (elsewhere : ∀ argument ∈ arguments,
      register ≠ .index (callee.parameterStart + argument.2.1)) :
    (arguments.foldl (passOne caller) callee).get? register = callee.get? register := by
  induction arguments generalizing callee with
  | nil => rfl
  | cons argument rest ih =>
      obtain ⟨here, later⟩ := List.forall_mem_cons.mp elsewhere
      rw [List.foldl_cons, ih (by simpa only [parameterStart_passOne] using later)]
      rw [passOne, Frame.assignParameter, Frame.get?_assign, if_neg]
      rintro ⟨same, _⟩
      exact here same.symm

@[simp] theorem parameterStart_foldl (arguments : List (Nat × Nat × TypeName)) :
    (arguments.foldl (passOne caller) callee).parameterStart = callee.parameterStart := by
  induction arguments generalizing callee with
  | nil => rfl
  | cons argument rest ih => rw [List.foldl_cons, ih, parameterStart_passOne]

/-- Arguments passed at other offsets leave a parameter as it is. -/
theorem peekParameter_foldl_of_ne {arguments : List (Nat × Nat × TypeName)} {offset : Nat}
    (elsewhere : ∀ argument ∈ arguments, argument.2.1 ≠ offset) :
    (arguments.foldl (passOne caller) callee).peekParameter offset =
      callee.peekParameter offset := by
  rw [Frame.peekParameter, Frame.peekParameter, parameterStart_foldl, Frame.peek,
    get?_foldl_of_ne, Frame.peek]
  intro argument member same
  have different := elsewhere argument member
  rw [Register.index.injEq] at same
  omega

/-- Of arguments passed at different offsets each one is found at its own. -/
theorem peekParameter_foldl {arguments : List (Nat × Nat × TypeName)}
    {argument : Nat × Nat × TypeName}
    (apart : arguments.Pairwise fun left right => left.2.1 < right.2.1)
    (inside : callee.has (.index (callee.parameterStart + argument.2.1)) = true)
    (member : argument ∈ arguments) :
    (arguments.foldl (passOne caller) callee).peekParameter argument.2.1 =
      (caller.peek (.index argument.1)).marshal argument.2.2 := by
  induction arguments generalizing callee with
  | nil => cases member
  | cons head rest ih =>
      obtain ⟨before, apart⟩ := List.pairwise_cons.mp apart
      rw [List.foldl_cons]
      rcases List.mem_cons.mp member with rfl | later
      · rw [peekParameter_foldl_of_ne fun other otherMember =>
          Nat.ne_of_gt (before other otherMember)]
        rw [Frame.peekParameter, parameterStart_passOne, Frame.peek, passOne,
          Frame.assignParameter, Frame.get?_assign, if_pos ⟨rfl, inside⟩]
        rfl
      · refine ih apart ?_ later
        rw [parameterStart_passOne, passOne, Frame.assignParameter, Frame.has_assign]
        exact inside

/-- Each argument is found at the offset where its type was placed, if the callee has a
register there. -/
theorem peekParameter_pass_of_has {index number offset : Nat} {type : TypeName}
    (same_length : registers.length = types.length)
    (inside : callee.has (.index (callee.parameterStart + offset)) = true)
    (passed : registers[index]? = some number)
    (placed : (Method.place 0 types)[index]? = some (offset, type)) :
    (pass caller registers types callee).peekParameter offset =
      (caller.peek (.index number)).marshal type := by
  have apart : (registers.zip (Method.place 0 types)).Pairwise
      fun left right => left.2.1 < right.2.1 := by
    have placedApart := Method.pairwise_place types 0
    have enough : (Method.place 0 types).length ≤ registers.length :=
      Nat.le_of_eq ((Method.length_place 0 types).trans same_length.symm)
    rw [← List.map_snd_zip enough, List.pairwise_map] at placedApart
    exact placedApart
  have member : (number, offset, type) ∈ registers.zip (Method.place 0 types) := by
    have zipped : (registers.zip (Method.place 0 types))[index]? =
        some (number, offset, type) := List.getElem?_zip_eq_some.mpr ⟨passed, placed⟩
    exact List.mem_of_getElem? zipped
  rw [pass_eq_foldl]
  exact peekParameter_foldl apart inside member

/-- Each argument is found at the offset where its type was placed. -/
theorem peekParameter_pass {index number offset : Nat} {type : TypeName}
    (same_length : registers.length = types.length)
    (room : callee.parameterStart + Method.totalSize types ≤ callee.registerCount)
    (passed : registers[index]? = some number)
    (placed : (Method.place 0 types)[index]? = some (offset, type)) :
    (pass caller registers types callee).peekParameter offset =
      (caller.peek (.index number)).marshal type := by
  have inside : callee.has (.index (callee.parameterStart + offset)) = true := by
    have bounds := Method.bounds_of_mem_place (List.mem_of_getElem? placed)
    have positive := type.registerSize_pos
    simp only [Frame.has, decide_eq_true_eq]
    omega
  exact peekParameter_pass_of_has same_length inside passed placed

/-- Each argument is found at the offset where any type of its size was placed. -/
theorem peekParameter_pass_of_sizes {declaredTypes : List TypeName} {index number offset : Nat}
    {declared : TypeName}
    (sizes : types.map TypeName.registerSize = declaredTypes.map TypeName.registerSize)
    (sameLength : registers.length = declaredTypes.length)
    (room : callee.parameterStart + Method.totalSize declaredTypes ≤ callee.registerCount)
    (passed : registers[index]? = some number)
    (placed : (Method.place 0 declaredTypes)[index]? = some (offset, declared)) :
    ∃ type, types[index]? = some type ∧
      (pass caller registers types callee).peekParameter offset =
        (caller.peek (.index number)).marshal type := by
  obtain ⟨type, typed, placedHere⟩ := Method.exists_getElem?_place_of_sizes sizes placed
  have lengths := congrArg List.length sizes
  rw [List.length_map, List.length_map] at lengths
  have total : Method.totalSize types = Method.totalSize declaredTypes :=
    congrArg List.sum sizes
  rw [← total] at room
  exact ⟨type, typed, peekParameter_pass (sameLength.trans lengths.symm) room passed placedHere⟩

end Arguments

/-- What is not known of an argument is not known of the parameter. -/
theorem TypedValue.isUnknown_marshal {item : TypedValue} (unknown : item.isUnknown = true)
    (type : TypeName) : (item.marshal type).isUnknown = true := by
  rw [marshal, unknown]
  simpa using unknown

namespace InvokeOp

variable {σ : Type} {op : InvokeOp} {before : Analysis σ} {caller : Activation}

/-- If each type that may be passed is as wide as the declared one, so are all together. -/
theorem registerSize_argumentTypes_of_reconcile (op : InvokeOp) (frame : Frame)
    (each : ∀ type ∈ op.method.parameterTypes, ∀ item,
      (before.registry.catalog.reconcile item type).registerSize = type.registerSize) :
    (op.argumentTypes before frame).map TypeName.registerSize =
      op.method.parameterTypes.map TypeName.registerSize := by
  have same_length := op.length_registers
  rw [argumentTypes, Arguments.types, List.map_map]
  generalize op.method.parameterTypes = declared at same_length each ⊢
  generalize op.registers = registers at same_length ⊢
  induction declared generalizing registers with
  | nil => rfl
  | cons type rest ih =>
      cases registers with
      | nil => cases same_length
      | cons number numbers =>
          have here := each type (List.mem_cons_self ..) (frame.peek (.index number))
          have others := ih (fun other member => each other (List.mem_cons_of_mem _ member))
            numbers (Nat.succ.inj same_length)
          simp only [List.zip_cons_cons, List.map_cons, Function.comp, here]
          rw [← others]

/-- The types that arguments are passed as are as wide as the declared ones. -/
theorem registerSize_argumentTypes (narrow : before.registry.catalog.NarrowSupertypes)
    (op : InvokeOp) (frame : Frame) :
    (op.argumentTypes before frame).map TypeName.registerSize =
      op.method.parameterTypes.map TypeName.registerSize :=
  registerSize_argumentTypes_of_reconcile op frame fun type _ item =>
    narrow.registerSize_reconcile item type

/-- If the types that arguments are passed as are as wide as the declared ones, the
parameter at a declared offset is the argument of that position. -/
theorem peekParameter_calleeOf_of_sizes (caller : Activation)
    (sizes : (op.argumentTypes before caller.frame).map TypeName.registerSize =
      op.method.parameterTypes.map TypeName.registerSize)
    {index number offset : Nat} {declared : TypeName}
    (passed : op.registers[index]? = some number)
    (placed : op.method.offsets[index]? = some (offset, declared)) :
    ∃ type, (op.argumentTypes before caller.frame)[index]? = some type ∧
      (op.calleeOf (op.argumentTypes before caller.frame) caller).frame.peekParameter
        offset = (caller.frame.peek (.index number)).marshal type := by
  refine Arguments.peekParameter_pass_of_sizes sizes op.length_registers ?_ passed placed
  rw [Frame.forParameters, Frame.registerCount_blank]
  exact Nat.le_of_eq (Nat.sub_add_cancel (Nat.le_refl op.method.parameterSize))

/-- The parameter at a declared offset is the argument of that position. -/
theorem peekParameter_calleeOf (caller : Activation)
    (narrow : before.registry.catalog.NarrowSupertypes)
    {index number offset : Nat} {declared : TypeName}
    (passed : op.registers[index]? = some number)
    (placed : op.method.offsets[index]? = some (offset, declared)) :
    ∃ type, (op.argumentTypes before caller.frame)[index]? = some type ∧
      (op.calleeOf (op.argumentTypes before caller.frame) caller).frame.peekParameter
        offset = (caller.frame.peek (.index number)).marshal type :=
  peekParameter_calleeOf_of_sizes caller (registerSize_argumentTypes narrow op caller.frame)
    passed placed

/-- An argument is passed as the type that reconciles its own with the declared one. -/
theorem getElem?_argumentTypes (op : InvokeOp) (before : Analysis σ) (frame : Frame)
    {index number : Nat} {declared : TypeName} (passed : op.registers[index]? = some number)
    (typed : op.method.parameterTypes[index]? = some declared) :
    (op.argumentTypes before frame)[index]? =
      some (before.registry.catalog.reconcile (frame.peek (.index number)) declared) := by
  have zipped : (op.method.parameterTypes.zip op.registers)[index]? =
      some (declared, number) := List.getElem?_zip_eq_some.mpr ⟨typed, passed⟩
  rw [argumentTypes, Arguments.types, List.getElem?_map, zipped]
  rfl

/-- Parameters are all known only if the arguments are. -/
theorem known_of_allKnown (caller : Activation)
    (narrow : before.registry.catalog.NarrowSupertypes)
    (allKnown : Arguments.allKnown op.method
      (op.calleeOf (op.argumentTypes before caller.frame) caller).frame = true)
    {number : Nat} (passed : number ∈ op.registers) :
    (caller.frame.peek (.index number)).isUnknown = false := by
  obtain ⟨index, here⟩ := List.getElem?_of_mem passed
  have inside : index < op.method.offsets.length := by
    rw [Method.length_offsets, ← op.length_registers]
    exact (List.getElem?_eq_some_iff.mp here).1
  obtain ⟨⟨offset, declared⟩, placed⟩ :
      ∃ placed, op.method.offsets[index]? = some placed :=
    ⟨_, List.getElem?_eq_getElem inside⟩
  obtain ⟨type, _, found⟩ := peekParameter_calleeOf caller narrow here placed
  have known := List.all_eq_true.mp allKnown _ (List.mem_of_getElem? placed)
  simp only at known
  cases unknown : (caller.frame.peek (.index number)).isUnknown with
  | false => rfl
  | true =>
      rw [found, TypedValue.isUnknown_marshal unknown] at known
      cases known

end InvokeOp

end Callsite
