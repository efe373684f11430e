import Callsite.Catalog

/-!
# What the type of an argument rests on

Whether an argument keeps its own type is read off the supertypes of its element type: the
brackets of the argument are dropped, and those of the declared type are not.  Between
classes this is assignability.  An array may keep its type where a supertype of its elements
is declared, and may lose it where an array of such supertypes is
(`Catalog.reconcile_faithful_iff`).
-/

namespace Callsite

/-- A type without dimensions is its own element type. -/
theorem TypeName.elementBase_of_dimensions_eq_zero {type : TypeName}
    (flat : type.dimensions = 0) : type.elementBase = type := by
  have whole := type.replicate_dimensions_append_elementBase
  rw [flat, List.replicate_zero, List.nil_append] at whole
  exact String.toList_inj.mp whole

namespace Catalog

variable {catalog : Catalog} {actual declared : TypeName}

/-! ## Assignability by dimensions -/

theorem isInstanceOf_of_classes (different : actual ≠ declared)
    (actualFlat : actual.dimensions = 0) (declaredFlat : declared.dimensions = 0) :
    catalog.isInstanceOf actual declared =
      chainContains (catalog.ancestors actual.elementBase) declared := by
  simp only [isInstanceOf, assignability, different, actualFlat, declaredFlat, if_false,
    Nat.lt_irrefl, false_and, ne_eq, not_true_eq_false]
  rw [TypeName.elementBase_of_dimensions_eq_zero declaredFlat]

/-- An array is assignable to the root class and the interfaces of arrays. -/
theorem isInstanceOf_of_array (isArray : 0 < actual.dimensions)
    (declaredFlat : declared.dimensions = 0) :
    catalog.isInstanceOf actual declared = true ↔
      declared ∈ TypeName.object :: TypeName.arrayInterfaces := by
  have different : actual ≠ declared := by
    rintro rfl
    omega
  simp only [isInstanceOf, assignability, different, isArray, declaredFlat, if_false, and_self,
    if_true]
  simp

theorem isInstanceOf_of_unlike (isArray : 0 < declared.dimensions)
    (unlike : actual.dimensions ≠ declared.dimensions) :
    catalog.isInstanceOf actual declared = false := by
  have different : actual ≠ declared := fun same => unlike (congrArg TypeName.dimensions same)
  have notFlat : declared.dimensions ≠ 0 := Nat.ne_of_gt isArray
  simp only [isInstanceOf, assignability, different, unlike, notFlat, if_false, and_false,
    ne_eq, not_false_eq_true, if_true]

/-- Arrays of as many dimensions are assignable if their elements are, and primitive elements
to no others. -/
theorem isInstanceOf_of_like (different : actual ≠ declared)
    (notPrimitive : actual.elementBase.isPrimitive = false)
    (isArray : 0 < actual.dimensions) (like : actual.dimensions = declared.dimensions) :
    catalog.isInstanceOf actual declared = true ↔
      declared.elementBase.isPrimitive = false ∧
        chainContains (catalog.ancestors actual.elementBase) declared.elementBase = true := by
  have notFlat : declared.dimensions ≠ 0 := by omega
  have isArray : 0 < declared.dimensions := by omega
  cases primitive : declared.elementBase.isPrimitive with
  | false =>
      simp [isInstanceOf, assignability, different, like, notFlat, notPrimitive, primitive]
  | true =>
      have apart : actual.elementBase ≠ declared.elementBase := by
        intro same
        rw [same, primitive] at notPrimitive
        cases notPrimitive
      simp [isInstanceOf, assignability, different, like, notFlat, isArray, primitive, apart]

/-! ## Reconciliation -/

/-- The supertypes of the element type tell whether a type is assignable to the declared
one. -/
inductive ElementTells (catalog : Catalog) (actual declared : TypeName) : Prop where
  | same : actual = declared → ElementTells catalog actual declared
  | classes : actual.dimensions = 0 → declared.dimensions = 0 →
      ElementTells catalog actual declared
  /-- The element has the declared type for a supertype if every array has. -/
  | array : 0 < actual.dimensions → declared.dimensions = 0 →
      (chainContains (catalog.ancestors actual.elementBase) declared = true ↔
        declared ∈ TypeName.object :: TypeName.arrayInterfaces) →
      ElementTells catalog actual declared
  /-- The element does not have an array of other dimensions for a supertype. -/
  | unlike : 0 < declared.dimensions → actual.dimensions ≠ declared.dimensions →
      chainContains (catalog.ancestors actual.elementBase) declared = false →
      ElementTells catalog actual declared
  /-- The element has an array for a supertype if it has the element of that. -/
  | like : 0 < actual.dimensions → actual.dimensions = declared.dimensions →
      (chainContains (catalog.ancestors actual.elementBase) declared = true ↔
        declared.elementBase.isPrimitive = false ∧
          chainContains (catalog.ancestors actual.elementBase) declared.elementBase = true) →
      ElementTells catalog actual declared

/-- The supertypes of the element type tell of assignability if they list what the type is
assignable to. -/
theorem elementTells_iff (notPrimitive : actual.elementBase.isPrimitive = false) :
    catalog.ElementTells actual declared ↔
      actual = declared ∨
        chainContains (catalog.ancestors actual.elementBase) declared =
          catalog.isInstanceOf actual declared := by
  constructor
  · intro tells
    by_cases same : actual = declared
    · exact .inl same
    right
    cases tells with
    | same equal => exact absurd equal same
    | classes actualFlat declaredFlat =>
        exact (isInstanceOf_of_classes same actualFlat declaredFlat).symm
    | array isArray declaredFlat lists =>
        exact Bool.eq_iff_iff.mpr
          (lists.trans (isInstanceOf_of_array isArray declaredFlat).symm)
    | unlike isArray unlike lists => rw [lists, isInstanceOf_of_unlike isArray unlike]
    | like isArray like lists =>
        exact Bool.eq_iff_iff.mpr
          (lists.trans (isInstanceOf_of_like same notPrimitive isArray like).symm)
  · intro agree
    by_cases same : actual = declared
    · exact .same same
    have agree := agree.resolve_left same
    by_cases declaredFlat : declared.dimensions = 0
    · by_cases actualFlat : actual.dimensions = 0
      · exact .classes actualFlat declaredFlat
      · have isArray := Nat.pos_of_ne_zero actualFlat
        refine .array isArray declaredFlat ?_
        rw [agree]
        exact isInstanceOf_of_array isArray declaredFlat
    · have declaredArray := Nat.pos_of_ne_zero declaredFlat
      by_cases like : actual.dimensions = declared.dimensions
      · have isArray : 0 < actual.dimensions := like.symm ▸ declaredArray
        refine .like isArray like ?_
        rw [agree]
        exact isInstanceOf_of_like same notPrimitive isArray like
      · refine .unlike declaredArray like ?_
        rw [agree]
        exact isInstanceOf_of_unlike declaredArray like

/-- An argument that is not made of primitives keeps its type exactly where it is usable,
provided that the supertypes of its element type tell so; and where it is passed as a type
that is not usable, the supertypes of its element type list the declared type. -/
theorem reconcile_faithful_iff (catalog : Catalog) (item : TypedValue) (declared : TypeName)
    (notPrimitive : item.hasPrimitiveBase = false) :
    (catalog.reconcile item declared =
        (if catalog.isInstanceOf item.type declared then item.type else declared) ↔
      catalog.ElementTells item.type declared) ∧
    (catalog.isInstanceOf (catalog.reconcile item declared) declared = false ↔
      chainContains (catalog.ancestors item.type.elementBase) declared = true ∧
        catalog.isInstanceOf item.type declared = false) := by
  have unfolded : catalog.reconcile item declared =
      narrower (catalog.ancestors item.type.elementBase) item.type declared := by
    rw [reconcile, notPrimitive, if_neg Bool.false_ne_true]
  rw [unfolded, narrower, elementTells_iff notPrimitive]
  cases lists : chainContains (catalog.ancestors item.type.elementBase) declared <;>
    cases usable : catalog.isInstanceOf item.type declared <;>
    simp [usable, eq_comm]

/-- Two classes, one of which extends the other. -/
def parentAndChild : Catalog where
  classes :=
    [{ name := "Lapp/Parent;", superclass := some TypeName.object },
      { name := "Lapp/Child;", superclass := some "Lapp/Parent;" }]

theorem reconcile_faithful_iff_childArray :
    let item := TypedValue.unknown "[Lapp/Child;"
    item.hasPrimitiveBase = false ∧
      (parentAndChild.reconcile item "Lapp/Parent;" =
          (if parentAndChild.isInstanceOf item.type "Lapp/Parent;" then item.type
            else "Lapp/Parent;") ↔
        parentAndChild.ElementTells item.type "Lapp/Parent;") ∧
      (parentAndChild.isInstanceOf (parentAndChild.reconcile item "Lapp/Parent;")
          "Lapp/Parent;" = false ↔
        chainContains (parentAndChild.ancestors item.type.elementBase) "Lapp/Parent;" = true ∧
          parentAndChild.isInstanceOf item.type "Lapp/Parent;" = false) := by
  intro item
  have notPrimitive : item.hasPrimitiveBase = false := by decide
  exact ⟨notPrimitive, reconcile_faithful_iff parentAndChild item "Lapp/Parent;" notPrimitive⟩

/-- An array of a class is passed as what it is where the superclass of its elements is
declared, though it is not usable there. -/
theorem reconcile_keeps_childArray :
    ¬ ∀ (catalog : Catalog) (item : TypedValue) (declared : TypeName),
      item.hasPrimitiveBase = false → declared.isReference = true →
        catalog.reconcile item declared =
            (if catalog.isInstanceOf item.type declared then item.type else declared) ∧
          catalog.isInstanceOf (catalog.reconcile item declared) declared = true := by
  intro faithful
  have usable := (faithful parentAndChild (TypedValue.unknown "[Lapp/Child;") "Lapp/Parent;"
    (by decide) (by decide)).2
  have unusable : parentAndChild.isInstanceOf
      (parentAndChild.reconcile (TypedValue.unknown "[Lapp/Child;") "Lapp/Parent;")
      "Lapp/Parent;" = false := by decide
  rw [unusable] at usable
  cases usable

end Catalog

end Callsite
