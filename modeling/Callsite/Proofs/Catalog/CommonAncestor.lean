import Callsite.Proofs.Catalog.Levels
import Callsite.Proofs.Catalog.Reconciliation

/-!
# The nearest common supertype

Of the types that two chains of supertypes share, the one is chosen that the first chain lists
first, so no other takes fewer steps from there.  It need not be the narrowest one: a class
lists its superclass before its interfaces, and the chain of an array lists no arrays of
supertypes (`Catalog.commonAncestor_narrowest_iff`).
-/

namespace Callsite

namespace TypeName

variable {type element : TypeName}

theorem contains_of_isReference {letters : List TypeName}
    (none : ∀ letter ∈ letters, letter.isReference = false)
    (reference : type.isReference = true) : letters.contains type = false := by
  cases contained : letters.contains type with
  | false => rfl
  | true =>
      rw [none type (by simpa using contained)] at reference
      cases reference

/-- No letter stands for a class or an array. -/
theorem isPrimitive_of_isReference (reference : type.isReference = true) :
    type.isPrimitive = false :=
  contains_of_isReference (by decide) reference

theorem isIntLike_of_isReference (reference : type.isReference = true) :
    type.isIntLike = false :=
  contains_of_isReference (by decide) reference

theorem dimensions_elementBase (type : TypeName) : type.elementBase.dimensions = 0 := by
  rw [dimensions, elementBase, String.toList_ofList]
  cases rest : type.toList.dropWhile (· == '[') with
  | nil => rfl
  | cons first others =>
      have notBracket := List.head_dropWhile_not (· == '[') (l := type.toList) (by simp [rest])
      simp only [rest, List.head_cons] at notBracket
      simp [notBracket]

/-- The array type of a number of dimensions over an element type. -/
def arrayOf (count : Nat) (element : TypeName) : TypeName :=
  String.ofList (List.replicate count '[' ++ element.toList)

theorem dimensions_arrayOf (count : Nat) (flat : element.dimensions = 0) :
    (arrayOf count element).dimensions = count := by
  have none : element.toList.takeWhile (· == '[') = [] := List.eq_nil_of_length_eq_zero flat
  rw [dimensions, arrayOf, String.toList_ofList, List.takeWhile_append_of_pos (by simp), none]
  simp

theorem elementBase_arrayOf (count : Nat) (flat : element.dimensions = 0) :
    (arrayOf count element).elementBase = element := by
  have all : element.toList.dropWhile (· == '[') = element.toList := by
    have split := List.takeWhile_append_dropWhile (p := (· == '[')) (l := element.toList)
    rwa [List.eq_nil_of_length_eq_zero flat, List.nil_append] at split
  rw [elementBase, arrayOf, String.toList_ofList, List.dropWhile_append_of_pos (by simp), all,
    String.ofList_toList]

theorem arrayOf_elementBase (type : TypeName) :
    arrayOf type.dimensions type.elementBase = type := by
  rw [arrayOf, type.replicate_dimensions_append_elementBase, String.ofList_toList]

theorem eq_of_elementBase_eq {other : TypeName} (like : type.dimensions = other.dimensions)
    (same : type.elementBase = other.elementBase) : type = other := by
  rw [← type.arrayOf_elementBase, ← other.arrayOf_elementBase, like, same]

end TypeName

namespace Catalog

variable {catalog : Catalog} {left right type : TypeName}
  {leftChain rightChain : List TypeName}

/-! ## The first shared type -/

/-- The nearest common supertype is listed by both chains, and no type before it in the
first. -/
theorem exists_split_of_commonAncestor (leftReference : left.isReference = true)
    (rightReference : right.isReference = true)
    (leftListing : catalog.ancestors left = .ok leftChain)
    (rightListing : catalog.ancestors right = .ok rightChain) :
    ∃ earlier later, leftChain = earlier ++ catalog.commonAncestor left right :: later ∧
      catalog.commonAncestor left right ∈ rightChain ∧
      ∀ type ∈ earlier, type ∉ rightChain := by
  have leftOrdinary := TypeName.isPrimitive_of_isReference leftReference
  have rightOrdinary := TypeName.isPrimitive_of_isReference rightReference
  by_cases same : left = right
  · subst same
    rw [leftListing] at rightListing
    cases rightListing
    obtain ⟨rest, rfl⟩ := exists_eq_cons_of_ancestors leftOrdinary leftListing
    rw [commonAncestor_self]
    exact ⟨[], rest, rfl, List.mem_cons_self, nofun⟩
  · rw [commonAncestor, if_neg same, leftListing, rightListing, firstShared]
    cases found : leftChain.find? fun candidate => rightChain.contains candidate with
    | some shared =>
        obtain ⟨contained, earlier, later, split, notShared⟩ := List.find?_eq_some_iff_append.mp found
        refine ⟨earlier, later, split, by simpa using contained, ?_⟩
        intro type member
        simpa using notShared type member
    | none =>
        have inLeft := object_mem_ancestors leftOrdinary leftListing
        have inRight := object_mem_ancestors rightOrdinary rightListing
        have notShared := List.find?_eq_none.mp found TypeName.object inLeft
        exact absurd (by simpa using inRight) notShared

/-- No type that the second chain lists takes fewer steps from the first type. -/
theorem noFarther_commonAncestor (leftReference : left.isReference = true)
    (rightReference : right.isReference = true)
    (leftListing : catalog.ancestors left = .ok leftChain)
    (rightListing : catalog.ancestors right = .ok rightChain) (shared : type ∈ rightChain) :
    catalog.NoFarther left (catalog.commonAncestor left right) type := by
  have leftOrdinary := TypeName.isPrimitive_of_isReference leftReference
  obtain ⟨earlier, later, split, _, notShared⟩ :=
    exists_split_of_commonAncestor leftReference rightReference leftListing rightListing
  intro steps climbs
  have listed := (mem_ancestors_iff leftOrdinary leftListing).mpr (.inr ⟨steps, climbs⟩)
  have sorted := pairwise_ancestors leftOrdinary leftListing
  rw [split] at listed sorted
  have fromNearest := (List.pairwise_append.mp sorted).2.1
  rcases List.mem_append.mp listed with before | onward
  · exact absurd shared (notShared type before)
  · rcases List.mem_cons.mp onward with rfl | after
    · exact ⟨steps, Nat.le_refl steps, climbs⟩
    · exact (List.pairwise_cons.mp fromNearest).1 type after steps climbs

/-! ## What types can be used as -/

/-- A class can be used as the classes that its chain lists. -/
theorem isInstanceOf_class_iff (isClass : left.dimensions = 0)
    (reference : left.isReference = true) (listing : catalog.ancestors left = .ok leftChain) :
    catalog.isInstanceOf left type = true ↔ type.dimensions = 0 ∧ type ∈ leftChain := by
  by_cases same : left = type
  · subst same
    have self := self_mem_ancestors (TypeName.isPrimitive_of_isReference reference) listing
    simp [isClass, self]
  · by_cases flat : type.dimensions = 0
    · rw [isInstanceOf_of_classes same isClass flat,
        TypeName.elementBase_of_dimensions_eq_zero isClass, listing]
      simp [chainContains, flat]
    · have unlike : left.dimensions ≠ type.dimensions := isClass ▸ Ne.symm flat
      rw [isInstanceOf_of_unlike (Nat.pos_of_ne_zero flat) unlike]
      simp [flat]

/-- An array can be used as an array of as many dimensions if it is the same or both have
elements that are no primitives and can be used as each other. -/
theorem isInstanceOf_array_iff (isArray : 0 < left.dimensions)
    (like : left.dimensions = type.dimensions) :
    catalog.isInstanceOf left type = true ↔ left = type ∨
      left.elementBase.isPrimitive = false ∧ type.elementBase.isPrimitive = false ∧
        catalog.isInstanceOf left.elementBase type.elementBase = true := by
  by_cases same : left = type
  · simp [same]
  · have apart : left.elementBase ≠ type.elementBase :=
      fun equal => same (TypeName.eq_of_elementBase_eq like equal)
    simp only [same, false_or]
    cases primitive : left.elementBase.isPrimitive with
    | false =>
        rw [isInstanceOf_of_like same primitive isArray like,
          isInstanceOf_of_classes apart left.dimensions_elementBase type.dimensions_elementBase,
          TypeName.elementBase_of_dimensions_eq_zero left.dimensions_elementBase]
        simp
    | true =>
        have notFlat : type.dimensions ≠ 0 := by omega
        have isArray : 0 < type.dimensions := by omega
        simp [isInstanceOf, assignability, same, like, notFlat, isArray, primitive, apart]

/-! ## The narrowest shared type -/

/-- Values of two types can be used as a type, and as no other that is narrower. -/
structure Narrowest (catalog : Catalog) (left right type : TypeName) : Prop where
  of_left : catalog.isInstanceOf left type = true
  of_right : catalog.isInstanceOf right type = true
  least : ∀ other, other ≠ type → catalog.isInstanceOf left other = true →
    catalog.isInstanceOf right other = true → catalog.isInstanceOf other type = true →
    catalog.isInstanceOf type other = true

/-- None of some types is narrower than a type that values of two types can be used as. -/
def NoneNarrower (catalog : Catalog) (left right type : TypeName) (others : List TypeName) :
    Prop :=
  ∀ other ∈ others, catalog.isInstanceOf left other = true →
    catalog.isInstanceOf right other = true → catalog.isInstanceOf other type = true →
    catalog.isInstanceOf type other = true

theorem Narrowest.noneNarrower (narrowest : catalog.Narrowest left right type)
    (others : List TypeName) : catalog.NoneNarrower left right type others := by
  intro other _ usableLeft usableRight below
  by_cases same : other = type
  · simp [same]
  · exact narrowest.least other same usableLeft usableRight below

/-- The elements of two arrays of as many dimensions can be used as one class. -/
structure ElementsShare (catalog : Catalog) (left right element : TypeName) : Prop where
  like : left.dimensions = right.dimensions
  left_ordinary : left.elementBase.isPrimitive = false
  right_ordinary : right.elementBase.isPrimitive = false
  ordinary : element.isPrimitive = false
  flat : element.dimensions = 0
  of_left : catalog.isInstanceOf left.elementBase element = true
  of_right : catalog.isInstanceOf right.elementBase element = true

/-- Two arrays can be used as an array of the class that their elements can be used as. -/
theorem ElementsShare.isInstanceOf_arrayOf {element : TypeName}
    (share : catalog.ElementsShare left right element) (isArray : 0 < left.dimensions) :
    catalog.isInstanceOf left (TypeName.arrayOf left.dimensions element) = true ∧
      catalog.isInstanceOf right (TypeName.arrayOf left.dimensions element) = true := by
  have dimensions := TypeName.dimensions_arrayOf left.dimensions share.flat
  have base := TypeName.elementBase_arrayOf left.dimensions share.flat
  constructor
  · refine (isInstanceOf_array_iff isArray dimensions.symm).mpr (.inr ?_)
    rw [base]
    exact ⟨share.left_ordinary, share.ordinary, share.of_left⟩
  · refine (isInstanceOf_array_iff (share.like ▸ isArray)
      (share.like.symm.trans dimensions.symm)).mpr (.inr ?_)
    rw [base]
    exact ⟨share.right_ordinary, share.ordinary, share.of_right⟩

theorem dimensions_eq_of_isInstanceOf (isArray : 0 < type.dimensions)
    (usable : catalog.isInstanceOf left type = true) : left.dimensions = type.dimensions := by
  by_cases like : left.dimensions = type.dimensions
  · exact like
  · rw [isInstanceOf_of_unlike isArray like] at usable
    cases usable

/-- The elements of different arrays that can be used as a third one can be used as the
element of that. -/
theorem elementsShare_of_isInstanceOf (isArray : 0 < type.dimensions) (different : left ≠ right)
    (ofLeft : catalog.isInstanceOf left type = true)
    (ofRight : catalog.isInstanceOf right type = true) :
    catalog.ElementsShare left right type.elementBase := by
  have likeLeft := dimensions_eq_of_isInstanceOf isArray ofLeft
  have likeRight := dimensions_eq_of_isInstanceOf isArray ofRight
  have like := likeLeft.trans likeRight.symm
  have flat := type.dimensions_elementBase
  have elements {other : TypeName} (like : other.dimensions = type.dimensions)
      (usable : catalog.isInstanceOf other type = true) : other = type ∨
        other.elementBase.isPrimitive = false ∧ type.elementBase.isPrimitive = false ∧
          catalog.isInstanceOf other.elementBase type.elementBase = true :=
    (isInstanceOf_array_iff (like ▸ isArray) like).mp usable
  rcases elements likeLeft ofLeft with rfl | ⟨leftOrdinary, ordinary, leftElement⟩
  · rcases elements likeRight ofRight with rfl | ⟨rightOrdinary, ordinary, rightElement⟩
    · exact absurd rfl different
    · exact ⟨like, ordinary, rightOrdinary, ordinary, flat, by simp, rightElement⟩
  · rcases elements likeRight ofRight with rfl | ⟨rightOrdinary, _, rightElement⟩
    · exact ⟨like, leftOrdinary, ordinary, ordinary, flat, leftElement, by simp⟩
    · exact ⟨like, leftOrdinary, rightOrdinary, ordinary, flat, leftElement, rightElement⟩

/-- The first shared type of two classes is the narrowest if no shared class that is listed
later is narrower. -/
theorem narrowest_classes_iff {nearest : TypeName} {earlier later : List TypeName}
    (leftClass : left.dimensions = 0) (rightClass : right.dimensions = 0)
    (leftReference : left.isReference = true) (rightReference : right.isReference = true)
    (leftListing : catalog.ancestors left = .ok leftChain)
    (rightListing : catalog.ancestors right = .ok rightChain)
    (split : leftChain = earlier ++ nearest :: later) (shared : nearest ∈ rightChain)
    (notShared : ∀ type ∈ earlier, type ∉ rightChain) :
    catalog.Narrowest left right nearest ↔
      nearest.dimensions = 0 ∧ catalog.NoneNarrower left right nearest later := by
  have ofLeft (type : TypeName) : catalog.isInstanceOf left type = true ↔
      type.dimensions = 0 ∧ type ∈ earlier ++ nearest :: later :=
    split ▸ isInstanceOf_class_iff leftClass leftReference leftListing
  have ofRight (type : TypeName) : catalog.isInstanceOf right type = true ↔
      type.dimensions = 0 ∧ type ∈ rightChain :=
    isInstanceOf_class_iff rightClass rightReference rightListing
  constructor
  · intro narrowest
    exact ⟨((ofLeft nearest).mp narrowest.of_left).1, narrowest.noneNarrower later⟩
  · rintro ⟨flat, noneLater⟩
    refine ⟨(ofLeft nearest).mpr ⟨flat, by simp⟩, (ofRight nearest).mpr ⟨flat, shared⟩, ?_⟩
    intro type different usableLeft usableRight below
    rcases List.mem_append.mp ((ofLeft type).mp usableLeft).2 with before | onward
    · exact absurd ((ofRight type).mp usableRight).2 (notShared type before)
    · have after := (List.mem_cons.mp onward).resolve_left different
      exact noneLater type after usableLeft usableRight below

/-- Where elements share a class, no class is the narrowest. -/
theorem Narrowest.dimensions_pos {element : TypeName}
    (narrowest : catalog.Narrowest left right type)
    (share : catalog.ElementsShare left right element)
    (isArray : 0 < left.dimensions) : 0 < type.dimensions := by
  by_cases flat : type.dimensions = 0
  · obtain ⟨usableLeft, usableRight⟩ := share.isInstanceOf_arrayOf isArray
    have dimensions := TypeName.dimensions_arrayOf left.dimensions share.flat
    have ofArrays := (isInstanceOf_of_array isArray flat).mp narrowest.of_left
    generalize TypeName.arrayOf left.dimensions element = array at *
    have unlike : type.dimensions ≠ array.dimensions := by omega
    have above := narrowest.noneNarrower [array] array (List.mem_singleton_self array)
      usableLeft usableRight ((isInstanceOf_of_array (dimensions ▸ isArray) flat).mpr ofArrays)
    rw [isInstanceOf_of_unlike (dimensions ▸ isArray) unlike] at above
    cases above
  · exact Nat.pos_of_ne_zero flat

/-- A type is the narrowest for two types, one of which is an array, if it is narrowest among
the root class and the interfaces of arrays, and, should the elements share classes, among the
arrays of those. -/
theorem narrowest_arrays_iff (isArray : 0 < left.dimensions ∨ 0 < right.dimensions)
    (different : left ≠ right) :
    catalog.Narrowest left right type ↔
      catalog.isInstanceOf left type = true ∧ catalog.isInstanceOf right type = true ∧
      catalog.NoneNarrower left right type (TypeName.object :: TypeName.arrayInterfaces) ∧
      ∀ element, catalog.ElementsShare left right element → 0 < type.dimensions ∧
        catalog.NoneNarrower left right type
          [TypeName.arrayOf left.dimensions element] := by
  constructor
  · intro narrowest
    refine ⟨narrowest.of_left, narrowest.of_right, narrowest.noneNarrower _, ?_⟩
    intro element share
    have isArray : 0 < left.dimensions := isArray.elim id (fun isArray => share.like ▸ isArray)
    exact ⟨narrowest.dimensions_pos share isArray, narrowest.noneNarrower _⟩
  · rintro ⟨ofLeft, ofRight, noneListed, noneShared⟩
    refine ⟨ofLeft, ofRight, ?_⟩
    intro other _ usableLeft usableRight below
    by_cases flat : other.dimensions = 0
    · have listed : other ∈ TypeName.object :: TypeName.arrayInterfaces :=
        isArray.elim (fun isArray => (isInstanceOf_of_array isArray flat).mp usableLeft)
          (fun isArray => (isInstanceOf_of_array isArray flat).mp usableRight)
      exact noneListed other listed usableLeft usableRight below
    · have otherArray := Nat.pos_of_ne_zero flat
      have share := elementsShare_of_isInstanceOf otherArray different usableLeft usableRight
      have whole : TypeName.arrayOf left.dimensions other.elementBase = other := by
        rw [dimensions_eq_of_isInstanceOf otherArray usableLeft, other.arrayOf_elementBase]
      refine (noneShared other.elementBase share).2 other ?_ usableLeft usableRight below
      rw [whole]
      exact List.mem_singleton_self other

/-- The nearest common supertype is the first type of one chain that the other lists too, and
no shared type takes fewer steps.  It is the narrowest type that two classes can be used as if
no shared class that is listed later is narrower.  If one of two types is an array, it is the
narrowest if no other type of arrays and no array of what the elements share is narrower. -/
theorem commonAncestor_narrowest_iff (leftReference : left.isReference = true)
    (rightReference : right.isReference = true)
    (leftListing : catalog.ancestors left = .ok leftChain)
    (rightListing : catalog.ancestors right = .ok rightChain) :
    let nearest := catalog.commonAncestor left right
    ∃ earlier later, leftChain = earlier ++ nearest :: later ∧ nearest ∈ rightChain ∧
      (∀ type ∈ earlier, type ∉ rightChain) ∧
      (∀ type ∈ rightChain, catalog.NoFarther left nearest type) ∧
      (left.dimensions = 0 → right.dimensions = 0 →
        (catalog.Narrowest left right nearest ↔
          nearest.dimensions = 0 ∧ catalog.NoneNarrower left right nearest later)) ∧
      (left ≠ right → 0 < left.dimensions ∨ 0 < right.dimensions →
        (catalog.Narrowest left right nearest ↔
          catalog.isInstanceOf left nearest = true ∧
          catalog.isInstanceOf right nearest = true ∧
          catalog.NoneNarrower left right nearest
            (TypeName.object :: TypeName.arrayInterfaces) ∧
          ∀ element, catalog.ElementsShare left right element → 0 < nearest.dimensions ∧
            catalog.NoneNarrower left right nearest
              [TypeName.arrayOf left.dimensions element])) ∧
      (left = right → catalog.Narrowest left right nearest) := by
  intro nearest
  obtain ⟨earlier, later, split, shared, notShared⟩ :=
    exists_split_of_commonAncestor leftReference rightReference leftListing rightListing
  refine ⟨earlier, later, split, shared, notShared, ?_, ?_, ?_, ?_⟩
  · intro type member
    exact noFarther_commonAncestor leftReference rightReference leftListing rightListing member
  · intro leftClass rightClass
    exact narrowest_classes_iff leftClass rightClass leftReference rightReference leftListing
      rightListing split shared notShared
  · intro different isArray
    exact narrowest_arrays_iff isArray different
  · rintro rfl
    have self : nearest = left := catalog.commonAncestor_self left
    rw [self]
    exact ⟨by simp, by simp, fun _ _ usable _ _ => usable⟩

/-- A class and an interface that it implements. -/
def markedShape : Catalog where
  classes :=
    [{ name := "Lapp/Marker;", superclass := some TypeName.object },
      { name := "Lapp/Shape;", superclass := some TypeName.object,
        interfaces := ["Lapp/Marker;"] }]

theorem commonAncestor_narrowest_iff_markedShape :
    let left : TypeName := "Lapp/Shape;"
    let right : TypeName := "Lapp/Marker;"
    let nearest := markedShape.commonAncestor left right
    let leftChain := ["Lapp/Shape;", "Ljava/lang/Object;", "Lapp/Marker;"]
    let rightChain := ["Lapp/Marker;", "Ljava/lang/Object;"]
    (left.isReference = true ∧ right.isReference = true ∧
      markedShape.ancestors left = .ok leftChain ∧
      markedShape.ancestors right = .ok rightChain) ∧
    ∃ earlier later, leftChain = earlier ++ nearest :: later ∧ nearest ∈ rightChain ∧
      (∀ type ∈ earlier, type ∉ rightChain) ∧
      (∀ type ∈ rightChain, markedShape.NoFarther left nearest type) ∧
      (left.dimensions = 0 → right.dimensions = 0 →
        (markedShape.Narrowest left right nearest ↔
          nearest.dimensions = 0 ∧ markedShape.NoneNarrower left right nearest later)) ∧
      (left ≠ right → 0 < left.dimensions ∨ 0 < right.dimensions →
        (markedShape.Narrowest left right nearest ↔
          markedShape.isInstanceOf left nearest = true ∧
          markedShape.isInstanceOf right nearest = true ∧
          markedShape.NoneNarrower left right nearest
            (TypeName.object :: TypeName.arrayInterfaces) ∧
          ∀ element, markedShape.ElementsShare left right element → 0 < nearest.dimensions ∧
            markedShape.NoneNarrower left right nearest
              [TypeName.arrayOf left.dimensions element])) ∧
      (left = right → markedShape.Narrowest left right nearest) := by
  intro left right nearest leftChain rightChain
  have leftReference : left.isReference = true := by decide
  have rightReference : right.isReference = true := by decide
  have leftListing : markedShape.ancestors left = .ok leftChain := rfl
  have rightListing : markedShape.ancestors right = .ok rightChain := rfl
  exact ⟨⟨leftReference, rightReference, leftListing, rightListing⟩,
    commonAncestor_narrowest_iff leftReference rightReference leftListing rightListing⟩

/-- The root class is found for a class and an interface that it implements, though both can
be used as the interface. -/
theorem commonAncestor_not_narrowest_markedShape :
    ¬ ∀ (catalog : Catalog) (left right : TypeName) (leftChain rightChain : List TypeName),
      left.isReference = true → right.isReference = true →
        catalog.ancestors left = .ok leftChain → catalog.ancestors right = .ok rightChain →
          catalog.Narrowest left right (catalog.commonAncestor left right) := by
  intro narrowest
  have narrowest := narrowest markedShape "Lapp/Shape;" "Lapp/Marker;"
    ["Lapp/Shape;", "Ljava/lang/Object;", "Lapp/Marker;"]
    ["Lapp/Marker;", "Ljava/lang/Object;"] (by decide) (by decide) rfl rfl
  have below := narrowest.least "Lapp/Marker;" (by decide) (by decide) (by decide) (by decide)
  have apart : markedShape.isInstanceOf
      (markedShape.commonAncestor "Lapp/Shape;" "Lapp/Marker;") "Lapp/Marker;" = false := by
    decide
  rw [apart] at below
  cases below

end Catalog

end Callsite
