import Callsite.Proofs.Catalog.CommonAncestor

/-!
# Assignability is an order

A type is assignable to itself, and what one can use in place of another one can also use in
place of the types that the other is assignable to, provided that the types of all arrays do
not lead anywhere but to the root class.  Among arrays of as many dimensions assignability is
that of the elements (`Catalog.isInstanceOf_preorder`).
-/

namespace Callsite.Catalog

variable {catalog : Catalog} {first second third type root : TypeName} {steps : Nat}

/-! ## Chains of supertypes -/

/-- A chain lists what it can reach and the root class, if there is a chain. -/
theorem chainContains_iff (notPrimitive : first.isPrimitive = false) :
    chainContains (catalog.ancestors first) type = true ↔
      (∃ chain, catalog.ancestors first = .ok chain) ∧
        (type = TypeName.object ∨ ∃ steps, catalog.Climbs first steps type) := by
  cases listing : catalog.ancestors first with
  | error cause => simp [chainContains]
  | ok chain =>
      rw [← mem_ancestors_iff notPrimitive listing]
      simp [chainContains]

/-- A primitive is its own chain. -/
theorem eq_of_chainContains_isPrimitive (primitive : first.isPrimitive = true)
    (contained : chainContains (catalog.ancestors first) type = true) : type = first := by
  rw [ancestors_of_isPrimitive catalog primitive] at contained
  simpa [chainContains] using contained

/-! ## The types of all arrays -/

/-- The types that every array is assignable to have no supertypes but the root class. -/
def PlainRoots (catalog : Catalog) : Prop :=
  ∀ root ∈ TypeName.object :: TypeName.arrayInterfaces, ∀ definition,
    catalog.find? root = some definition →
      ∀ type ∈ definition.supertypes, type = TypeName.object

theorem dimensions_of_mem_roots
    (isRoot : root ∈ TypeName.object :: TypeName.arrayInterfaces) : root.dimensions = 0 := by
  have flat : ∀ root ∈ TypeName.object :: TypeName.arrayInterfaces,
      TypeName.dimensions root = 0 := by decide
  exact flat root isRoot

theorem isPrimitive_of_mem_roots
    (isRoot : root ∈ TypeName.object :: TypeName.arrayInterfaces) :
    root.isPrimitive = false := by
  have ordinary : ∀ root ∈ TypeName.object :: TypeName.arrayInterfaces,
      TypeName.isPrimitive root = false := by decide
  exact ordinary root isRoot

namespace PlainRoots

variable (plain : catalog.PlainRoots)
include plain

theorem eq_object_of_mem_supertypes
    (isRoot : root ∈ TypeName.object :: TypeName.arrayInterfaces)
    (direct : type ∈ catalog.supertypes root) : type = TypeName.object := by
  have notArray : ∀ root ∈ TypeName.object :: TypeName.arrayInterfaces,
      TypeName.isArray root = false := by decide
  rw [supertypes, resolve] at direct
  cases found : catalog.find? root with
  | some definition =>
      simp only [found] at direct
      exact plain root isRoot definition found type direct
  | none =>
      simp [found, notArray root isRoot] at direct

/-- Climbing from one of the types of all arrays leads to the root class only. -/
theorem eq_or_eq_object_of_climbs (isRoot : root ∈ TypeName.object :: TypeName.arrayInterfaces)
    (climbs : catalog.Climbs root steps type) : type = root ∨ type = TypeName.object := by
  induction climbs with
  | here => exact .inl rfl
  | @up steps below above _ direct ih =>
      have belowIsRoot : below ∈ TypeName.object :: TypeName.arrayInterfaces := by
        rcases ih with rfl | rfl
        · exact isRoot
        · exact List.mem_cons_self
      exact .inr (plain.eq_object_of_mem_supertypes belowIsRoot direct)

/-- What a chain lists has no supertypes that the chain does not list, and if the root class
is only appended it has none to miss. -/
theorem chainContains_trans
    (lower : chainContains (catalog.ancestors first) second = true)
    (upper : chainContains (catalog.ancestors second) third = true) :
    chainContains (catalog.ancestors first) third = true := by
  cases firstPrimitive : first.isPrimitive with
  | true =>
      rw [eq_of_chainContains_isPrimitive firstPrimitive lower] at upper
      exact upper
  | false =>
      cases secondPrimitive : second.isPrimitive with
      | true =>
          rw [eq_of_chainContains_isPrimitive secondPrimitive upper]
          exact lower
      | false =>
          obtain ⟨listing, reached⟩ := (chainContains_iff firstPrimitive).mp lower
          obtain ⟨_, above⟩ := (chainContains_iff secondPrimitive).mp upper
          refine (chainContains_iff firstPrimitive).mpr ⟨listing, ?_⟩
          rcases above with isObject | ⟨more, climbs⟩
          · exact .inl isObject
          · rcases reached with rfl | ⟨steps, climbed⟩
            · exact .inl ((plain.eq_or_eq_object_of_climbs List.mem_cons_self climbs).elim id id)
            · exact .inr ⟨steps + more, climbed.trans climbs⟩

end PlainRoots

/-! ## Assignability -/

/-- A type without dimensions is assignable to itself and to those without dimensions that its
chain lists. -/
theorem isInstanceOf_flat_iff (flat : first.dimensions = 0) :
    catalog.isInstanceOf first second = true ↔ first = second ∨
      second.dimensions = 0 ∧ chainContains (catalog.ancestors first) second = true := by
  by_cases same : first = second
  · subst same
    simp
  · by_cases secondFlat : second.dimensions = 0
    · rw [isInstanceOf_of_classes same flat secondFlat,
        TypeName.elementBase_of_dimensions_eq_zero flat]
      simp [same, secondFlat]
    · have unlike : first.dimensions ≠ second.dimensions := flat ▸ Ne.symm secondFlat
      rw [isInstanceOf_of_unlike (Nat.pos_of_ne_zero secondFlat) unlike]
      simp [same, secondFlat]

namespace PlainRoots

variable (plain : catalog.PlainRoots)
include plain

theorem isInstanceOf_trans_of_flat (flat : first.dimensions = 0)
    (lower : catalog.isInstanceOf first second = true)
    (upper : catalog.isInstanceOf second third = true) :
    catalog.isInstanceOf first third = true := by
  rcases (isInstanceOf_flat_iff flat).mp lower with rfl | ⟨secondFlat, reached⟩
  · exact upper
  · rcases (isInstanceOf_flat_iff secondFlat).mp upper with rfl | ⟨thirdFlat, above⟩
    · exact lower
    · have reachedToo := plain.chainContains_trans reached above
      exact (isInstanceOf_flat_iff flat).mpr (.inr ⟨thirdFlat, reachedToo⟩)

/-- What one of the types of all arrays is assignable to is a type of all arrays. -/
theorem mem_roots_of_isInstanceOf
    (isRoot : root ∈ TypeName.object :: TypeName.arrayInterfaces)
    (usable : catalog.isInstanceOf root type = true) :
    type ∈ TypeName.object :: TypeName.arrayInterfaces := by
  rcases (isInstanceOf_flat_iff (dimensions_of_mem_roots isRoot)).mp usable with
    rfl | ⟨_, reached⟩
  · exact isRoot
  · rcases ((chainContains_iff (isPrimitive_of_mem_roots isRoot)).mp reached).2 with
      rfl | ⟨steps, climbs⟩
    · exact List.mem_cons_self
    · rcases plain.eq_or_eq_object_of_climbs isRoot climbs with rfl | rfl
      · exact isRoot
      · exact List.mem_cons_self

theorem isInstanceOf_trans_of_array (isArray : 0 < first.dimensions)
    (lower : catalog.isInstanceOf first second = true)
    (upper : catalog.isInstanceOf second third = true) :
    catalog.isInstanceOf first third = true := by
  by_cases thirdFlat : third.dimensions = 0
  · refine (isInstanceOf_of_array isArray thirdFlat).mpr ?_
    by_cases secondFlat : second.dimensions = 0
    · have isRoot := (isInstanceOf_of_array isArray secondFlat).mp lower
      exact plain.mem_roots_of_isInstanceOf isRoot upper
    · exact (isInstanceOf_of_array (Nat.pos_of_ne_zero secondFlat) thirdFlat).mp upper
  · have thirdArray := Nat.pos_of_ne_zero thirdFlat
    have like := dimensions_eq_of_isInstanceOf thirdArray upper
    have secondArray : 0 < second.dimensions := like.symm ▸ thirdArray
    have firstLike := dimensions_eq_of_isInstanceOf secondArray lower
    rcases (isInstanceOf_array_iff isArray firstLike).mp lower with
      rfl | ⟨firstOrdinary, _, lowerElement⟩
    · exact upper
    · rcases (isInstanceOf_array_iff secondArray like).mp upper with
        rfl | ⟨_, thirdOrdinary, upperElement⟩
      · exact lower
      · have element := plain.isInstanceOf_trans_of_flat first.dimensions_elementBase
          lowerElement upperElement
        exact (isInstanceOf_array_iff isArray (firstLike.trans like)).mpr
          (.inr ⟨firstOrdinary, thirdOrdinary, element⟩)

end PlainRoots

/-- Arrays of as many dimensions are assignable if their elements are. -/
theorem isInstanceOf_arrayOf (catalog : Catalog) (firstOrdinary : first.isPrimitive = false)
    (secondOrdinary : second.isPrimitive = false) (firstFlat : first.dimensions = 0)
    (secondFlat : second.dimensions = 0) (count : Nat) :
    catalog.isInstanceOf (TypeName.arrayOf count first) (TypeName.arrayOf count second) =
      catalog.isInstanceOf first second := by
  have firstCount := TypeName.dimensions_arrayOf count firstFlat
  have secondCount := TypeName.dimensions_arrayOf count secondFlat
  have firstElement := TypeName.elementBase_arrayOf count firstFlat
  have secondElement := TypeName.elementBase_arrayOf count secondFlat
  cases count with
  | zero => simp [TypeName.arrayOf]
  | succ count =>
      have isArray : 0 < (TypeName.arrayOf (count + 1) first).dimensions := by omega
      rw [Bool.eq_iff_iff, isInstanceOf_array_iff isArray (firstCount.trans secondCount.symm),
        firstElement, secondElement]
      constructor
      · rintro (same | ⟨_, _, usable⟩)
        · have sameElement : first = second := by
            rw [← firstElement, same, secondElement]
          simp [sameElement]
        · exact usable
      · intro usable
        exact .inr ⟨firstOrdinary, secondOrdinary, usable⟩

/-- Assignability is reflexive, and transitive between all types if those that every array is
assignable to have no supertypes but the root class.  Arrays of as many dimensions over
classes are assignable if and only if the classes are. -/
theorem isInstanceOf_preorder (plain : catalog.PlainRoots) :
    (∀ type, catalog.isInstanceOf type type = true) ∧
    (∀ first second third, catalog.isInstanceOf first second = true →
      catalog.isInstanceOf second third = true → catalog.isInstanceOf first third = true) ∧
    ∀ first second : TypeName, first.isPrimitive = false → second.isPrimitive = false →
      first.dimensions = 0 → second.dimensions = 0 → ∀ count,
        catalog.isInstanceOf (TypeName.arrayOf count first) (TypeName.arrayOf count second) =
          catalog.isInstanceOf first second := by
  refine ⟨catalog.isInstanceOf_self, ?_, ?_⟩
  · intro first second third lower upper
    by_cases flat : first.dimensions = 0
    · exact plain.isInstanceOf_trans_of_flat flat lower upper
    · exact plain.isInstanceOf_trans_of_array (Nat.pos_of_ne_zero flat) lower upper
  · intro first second firstOrdinary secondOrdinary firstFlat secondFlat count
    exact isInstanceOf_arrayOf catalog firstOrdinary secondOrdinary firstFlat secondFlat count

/-- A class that extends another and can be cloned, with the root class registered. -/
def squares : Catalog where
  classes :=
    [{ name := TypeName.object },
      { name := "Ljava/lang/Cloneable;", superclass := some TypeName.object },
      { name := "Lapp/Shape;", superclass := some TypeName.object },
      { name := "Lapp/Square;", superclass := some "Lapp/Shape;",
        interfaces := ["Ljava/lang/Cloneable;"] }]

theorem plainRoots_squares : squares.PlainRoots := by
  intro root isRoot definition found
  have named : definition.name = root := by
    simpa using List.find?_some found
  have plain : ∀ definition ∈ squares.classes,
      definition.name ∈ TypeName.object :: TypeName.arrayInterfaces →
        ∀ type ∈ definition.supertypes, type = TypeName.object := by decide
  exact plain definition (List.mem_of_find?_eq_some found) (named ▸ isRoot)

/-- Arrays of squares are arrays of shapes, and those can be cloned. -/
theorem isInstanceOf_preorder_squares :
    (squares.PlainRoots ∧ squares.isInstanceOf "[[Lapp/Square;" "[[Lapp/Shape;" = true ∧
      squares.isInstanceOf "[[Lapp/Shape;" "Ljava/lang/Cloneable;" = true) ∧
    (∀ type, squares.isInstanceOf type type = true) ∧
    (∀ first second third, squares.isInstanceOf first second = true →
      squares.isInstanceOf second third = true → squares.isInstanceOf first third = true) ∧
    ∀ first second : TypeName, first.isPrimitive = false → second.isPrimitive = false →
      first.dimensions = 0 → second.dimensions = 0 → ∀ count,
        squares.isInstanceOf (TypeName.arrayOf count first) (TypeName.arrayOf count second) =
          squares.isInstanceOf first second :=
  ⟨⟨plainRoots_squares, by decide, by decide⟩, isInstanceOf_preorder plainRoots_squares⟩

end Callsite.Catalog
