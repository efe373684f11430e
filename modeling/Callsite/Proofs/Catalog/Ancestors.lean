import Callsite.Proofs.Catalog.Levels

/-!
# Where the listed supertypes come from

Every type in a chain of supertypes is the type asked about, the root class, or
listed as a direct supertype of some type.  So if no registered class lists a wide
primitive as a supertype, no chain has one, and an argument is passed as a type that
takes as many registers as the declared one.
-/

namespace Callsite

namespace Catalog

variable {catalog : Catalog} {type : TypeName}

/-- A chain lists the type asked about, the root class and direct supertypes. -/
theorem mem_of_ancestors {name : TypeName} {chain : List TypeName}
    (listing : catalog.ancestors name = .ok chain) (member : type ∈ chain) :
    type = name ∨ type = TypeName.object ∨ ∃ other, type ∈ catalog.supertypes other := by
  cases primitive : name.isPrimitive with
  | true =>
      rw [ancestors_of_isPrimitive catalog primitive] at listing
      cases listing
      exact .inl (List.mem_singleton.mp member)
  | false =>
      rcases (mem_ancestors_iff primitive listing).mp member with root | ⟨_, climbs⟩
      · exact .inr (.inl root)
      · cases climbs with
        | here => exact .inl rfl
        | @up _ below _ _ direct => exact .inr (.inr ⟨below, direct⟩)

/-- A direct supertype is one of a registered class or one that every array has. -/
theorem mem_supertypes_cases {name : TypeName} (member : type ∈ catalog.supertypes name) :
    (∃ definition, catalog.find? name = some definition ∧ type ∈ definition.supertypes) ∨
      type ∈ TypeName.object :: TypeName.arrayInterfaces := by
  rw [supertypes, resolve] at member
  cases found : catalog.find? name with
  | some definition =>
      simp only [found] at member
      exact .inl ⟨definition, rfl, member⟩
  | none =>
      simp only [found] at member
      split at member
      · next definition resolved =>
          split at resolved
          · cases resolved
            exact .inr member
          · cases resolved
      · cases member

/-- No registered class has a wide primitive for a direct supertype. -/
def NarrowSupertypes (catalog : Catalog) : Prop :=
  ∀ name definition, catalog.find? name = some definition →
    ∀ type ∈ definition.supertypes, type ≠ "J" ∧ type ≠ "D"

theorem isWide_iff : TypeName.isWide type = true ↔ type = "J" ∨ type = "D" := by
  simp [TypeName.isWide]

theorem NarrowSupertypes.isWide_of_mem_supertypes (narrow : catalog.NarrowSupertypes)
    {name : TypeName} (member : type ∈ catalog.supertypes name) :
    TypeName.isWide type = false := by
  rcases mem_supertypes_cases member with ⟨definition, found, listed⟩ | ofArrays
  · cases wide : TypeName.isWide type with
    | false => rfl
    | true =>
        have notWide := narrow name definition found type listed
        rcases isWide_iff.mp wide with same | same
        · exact absurd same notWide.1
        · exact absurd same notWide.2
  · have allNarrow : ∀ other ∈ TypeName.object :: TypeName.arrayInterfaces,
        TypeName.isWide other = false := by decide
    exact allNarrow type ofArrays

/-- A wide type is its own element type, and primitive. -/
theorem isPrimitive_elementBase_of_isWide (wide : TypeName.isWide type = true) :
    TypeName.isPrimitive (TypeName.elementBase type) = true := by
  rcases isWide_iff.mp wide with rfl | rfl <;> decide

/-- An item of a wide type is passed as the declared type. -/
theorem isWide_type_of_not_hasPrimitiveBase {item : TypedValue}
    (notPrimitive : item.hasPrimitiveBase ≠ true) : TypeName.isWide item.type = false := by
  cases wide : TypeName.isWide item.type with
  | false => rfl
  | true => exact absurd (isPrimitive_elementBase_of_isWide wide) notPrimitive

/-- Where a narrow type is declared, a narrow one is passed. -/
theorem registerSize_reconcile_of_narrow {declared : TypeName}
    (narrow : TypeName.isWide declared = false) (item : TypedValue) :
    (catalog.reconcile item declared).registerSize = declared.registerSize := by
  rw [reconcile]
  split
  · rfl
  · next notPrimitive =>
      have itemNarrow := isWide_type_of_not_hasPrimitiveBase notPrimitive
      rw [narrower]
      split
      · rw [TypeName.registerSize_of_not_isWide itemNarrow,
          TypeName.registerSize_of_not_isWide narrow]
      · rfl

/-- A chain of a type that is not primitive lists narrow types only. -/
theorem NarrowSupertypes.isWide_of_chainContains (narrow : catalog.NarrowSupertypes)
    {name : TypeName} (notPrimitive : name.isPrimitive = false)
    (contained : chainContains (catalog.ancestors name) type = true) :
    TypeName.isWide type = false := by
  cases listing : catalog.ancestors name with
  | error cause =>
      rw [listing] at contained
      cases contained
  | ok chain =>
      rw [listing] at contained
      have member : type ∈ chain := by simpa [chainContains] using contained
      rcases mem_of_ancestors listing member with rfl | rfl | ⟨other, above⟩
      · cases wide : TypeName.isWide type with
        | false => rfl
        | true =>
            rcases isWide_iff.mp wide with rfl | rfl <;> cases notPrimitive
      · decide
      · exact narrow.isWide_of_mem_supertypes above

/-- The type that an argument is passed as takes as many registers as the declared
one. -/
theorem NarrowSupertypes.registerSize_reconcile (narrow : catalog.NarrowSupertypes)
    (item : TypedValue) (declared : TypeName) :
    (catalog.reconcile item declared).registerSize = declared.registerSize := by
  rw [reconcile]
  split
  · rfl
  · next notPrimitive =>
      have itemNarrow := isWide_type_of_not_hasPrimitiveBase notPrimitive
      rw [narrower]
      split
      · next contained =>
          have declaredNarrow :=
            narrow.isWide_of_chainContains (Bool.not_eq_true _ ▸ notPrimitive) contained
          rw [TypeName.registerSize, TypeName.registerSize, itemNarrow, declaredNarrow]
      · rfl

end Catalog

end Callsite
