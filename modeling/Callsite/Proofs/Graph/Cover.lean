import Callsite.Proofs.Catalog.Ancestors
import Callsite.Proofs.Catalog.CommonAncestor
import Callsite.Graph.Consensus

/-!
# Covering every path

Where the paths disagree, the types that they hold are covered one after another, from the
first to the last.  A type that takes the place of another is one of its supertypes or the
root class, and supertypes of supertypes are supertypes, so none of the types before loses
its cover (`Graph.consensusItem_covers`).
-/

namespace Callsite

namespace Catalog

variable {catalog : Catalog} {left right type far : TypeName}

/-- Every registered class has only classes and arrays for direct supertypes. -/
def ReferenceSupertypes (catalog : Catalog) : Prop :=
  ∀ name definition, catalog.find? name = some definition →
    ∀ type ∈ definition.supertypes, type.isReference = true

/-- What is reached from a class or an array are classes and arrays. -/
theorem ReferenceSupertypes.isReference_of_climbs (supertypes : catalog.ReferenceSupertypes)
    {name : TypeName} {steps : Nat} (reference : name.isReference = true)
    (climbs : catalog.Climbs name steps type) : type.isReference = true := by
  induction climbs with
  | here => exact reference
  | @up _ below above _ direct _ =>
      rcases mem_supertypes_cases direct with ⟨definition, found, listed⟩ | ofArrays
      · exact supertypes below definition found above listed
      · have allReferences : ∀ other ∈ TypeName.object :: TypeName.arrayInterfaces,
            TypeName.isReference other = true := by decide
        exact allReferences above ofArrays

/-- A type is another one, the root class or one of the other's supertypes. -/
def Covers (catalog : Catalog) (far type : TypeName) : Prop :=
  far = type ∨ far = TypeName.object ∨
    ∃ chain, catalog.ancestors type = .ok chain ∧ far ∈ chain

/-- What covers a class or an array is reached from it, unless it is the root class. -/
theorem Covers.exists_climbs (covers : catalog.Covers far type)
    (reference : type.isReference = true) (notRoot : far ≠ TypeName.object) :
    ∃ steps, catalog.Climbs type steps far := by
  rcases covers with rfl | root | ⟨chain, listing, member⟩
  · exact ⟨0, .here⟩
  · exact absurd root notRoot
  · have ordinary := TypeName.isPrimitive_of_isReference reference
    exact ((mem_ancestors_iff ordinary listing).mp member).resolve_left notRoot

theorem ReferenceSupertypes.isReference_of_covers (supertypes : catalog.ReferenceSupertypes)
    (reference : type.isReference = true) (covers : catalog.Covers far type) :
    far.isReference = true := by
  by_cases root : far = TypeName.object
  · rw [root]
    decide
  · obtain ⟨_, climbs⟩ := covers.exists_climbs reference root
    exact supertypes.isReference_of_climbs reference climbs

/-- What covers the cover of a type covers the type, unless the root class is in between. -/
theorem Covers.trans {near : TypeName} (first : catalog.Covers near type)
    (reference : type.isReference = true) (nearReference : near.isReference = true)
    (notRoot : near ≠ TypeName.object) (second : catalog.Covers far near) :
    catalog.Covers far type := by
  rcases first with rfl | root | ⟨chain, listing, member⟩
  · exact second
  · exact absurd root notRoot
  · have ordinary := TypeName.isPrimitive_of_isReference reference
    by_cases root : far = TypeName.object
    · exact .inr (.inl root)
    · obtain ⟨steps, below⟩ := ((mem_ancestors_iff ordinary listing).mp member).resolve_left
        notRoot
      obtain ⟨more, above⟩ := second.exists_climbs nearReference root
      exact .inr (.inr ⟨chain, listing,
        (mem_ancestors_iff ordinary listing).mpr (.inr ⟨steps + more, below.trans above⟩)⟩)

theorem commonAncestor_of_not_listed (different : left ≠ right)
    (missing : ¬ ∃ leftChain rightChain, catalog.ancestors left = .ok leftChain ∧
      catalog.ancestors right = .ok rightChain) :
    catalog.commonAncestor left right = TypeName.object := by
  rw [commonAncestor, if_neg different]
  cases leftListing : catalog.ancestors left with
  | error _ => rfl
  | ok leftChain =>
      cases rightListing : catalog.ancestors right with
      | error _ => rfl
      | ok rightChain => exact absurd ⟨leftChain, rightChain, leftListing, rightListing⟩ missing

/-- The nearest common supertype of two types covers both. -/
theorem covers_commonAncestor (catalog : Catalog) (leftReference : left.isReference = true)
    (rightReference : right.isReference = true) :
    catalog.Covers (catalog.commonAncestor left right) left ∧
      catalog.Covers (catalog.commonAncestor left right) right := by
  by_cases same : left = right
  · rw [same, commonAncestor_self]
    exact ⟨.inl rfl, .inl rfl⟩
  · by_cases listed : ∃ leftChain rightChain, catalog.ancestors left = .ok leftChain ∧
      catalog.ancestors right = .ok rightChain
    · obtain ⟨leftChain, rightChain, leftListing, rightListing⟩ := listed
      obtain ⟨earlier, later, split, shared, _⟩ :=
        exists_split_of_commonAncestor leftReference rightReference leftListing rightListing
      have inLeft : catalog.commonAncestor left right ∈ leftChain := by
        rw [split]
        exact List.mem_append_right earlier List.mem_cons_self
      exact ⟨.inr (.inr ⟨leftChain, leftListing, inLeft⟩),
        .inr (.inr ⟨rightChain, rightListing, shared⟩)⟩
    · rw [commonAncestor_of_not_listed same listed]
      exact ⟨.inr (.inl rfl), .inr (.inl rfl)⟩

/-- Nothing but the root class covers it, whatever it extends. -/
theorem commonAncestor_object (reference : type.isReference = true) :
    catalog.commonAncestor TypeName.object type = TypeName.object := by
  by_cases same : TypeName.object = type
  · rw [← same, commonAncestor_self]
  · by_cases listed : ∃ leftChain rightChain,
      catalog.ancestors TypeName.object = .ok leftChain ∧
        catalog.ancestors type = .ok rightChain
    · obtain ⟨leftChain, rightChain, leftListing, rightListing⟩ := listed
      have rootReference : TypeName.object.isReference = true := by decide
      obtain ⟨earlier, later, split, _, notShared⟩ :=
        exists_split_of_commonAncestor rootReference reference leftListing rightListing
      obtain ⟨rest, first⟩ := exists_eq_cons_of_ancestors (by decide) leftListing
      rw [first] at split
      cases earlier with
      | nil => exact (List.cons.inj split).1.symm
      | cons head _ =>
          have inRight := object_mem_ancestors
            (TypeName.isPrimitive_of_isReference reference) rightListing
          have isHead := (List.cons.inj split).1
          exact absurd (isHead ▸ inRight) (notShared head List.mem_cons_self)
    · exact commonAncestor_of_not_listed same listed

end Catalog

namespace Graph

variable {graph : Graph} {catalog : Catalog} {register : Register} {type : TypeName}
  {items : List TypedValue} {seen : List TypeName}

/-- Cover the types of items, one after another. -/
def coverAll (graph : Graph) (catalog : Catalog) (type : TypeName) (items : List TypedValue) :
    TypeName :=
  items.foldl (fun type item => graph.cover catalog type item.type) type

/-! ## One item -/

theorem cover_references (graph : Graph) {left right : TypeName}
    (leftReference : left.isReference = true) (rightReference : right.isReference = true) :
    graph.cover catalog left right = catalog.commonAncestor left right := by
  rw [cover]
  split
  · next same => rw [same, Catalog.commonAncestor_self]
  · have notIntLike := TypeName.isIntLike_of_isReference leftReference
    simp [notIntLike, leftReference, rightReference]

theorem cover_intLike (graph : Graph) {left right : TypeName} (different : left ≠ right)
    (leftIntLike : left.isIntLike = true) (rightIntLike : right.isIntLike = true) :
    graph.cover catalog left right = TypeName.int := by
  simp [cover, different, leftIntLike, rightIntLike]

/-- A class or an array covers the types that were seen. -/
structure CoversSeen (catalog : Catalog) (seen : List TypeName) (type : TypeName) : Prop where
  reference : type.isReference = true
  seen_references : ∀ other ∈ seen, other.isReference = true
  covers : ∀ other ∈ seen, catalog.Covers type other

/-- Covering one more type uncovers none of those that were seen before. -/
theorem CoversSeen.cover (covered : CoversSeen catalog seen type) (graph : Graph)
    (supertypes : catalog.ReferenceSupertypes) {right : TypeName}
    (rightReference : right.isReference = true) :
    CoversSeen catalog (seen ++ [right]) (graph.cover catalog type right) := by
  rw [graph.cover_references covered.reference rightReference]
  obtain ⟨ofType, ofRight⟩ := catalog.covers_commonAncestor covered.reference rightReference
  constructor
  case reference => exact supertypes.isReference_of_covers covered.reference ofType
  case seen_references =>
    intro other member
    rcases List.mem_append.mp member with before | last
    · exact covered.seen_references other before
    · rw [List.mem_singleton.mp last]
      exact rightReference
  case covers =>
    intro other member
    rcases List.mem_append.mp member with before | last
    · by_cases root : type = TypeName.object
      · rw [root, Catalog.commonAncestor_object rightReference]
        exact .inr (.inl rfl)
      · exact (covered.covers other before).trans (covered.seen_references other before)
          covered.reference root ofType
    · rw [List.mem_singleton.mp last]
      exact ofRight

/-! ## All items -/

theorem CoversSeen.coverAll (covered : CoversSeen catalog seen type) (graph : Graph)
    (supertypes : catalog.ReferenceSupertypes)
    (references : ∀ item ∈ items, item.type.isReference = true) :
    CoversSeen catalog (seen ++ items.map TypedValue.type)
      (graph.coverAll catalog type items) := by
  induction items generalizing seen type with
  | nil => simpa [Graph.coverAll] using covered
  | cons item rest ih =>
      obtain ⟨reference, references⟩ := List.forall_mem_cons.mp references
      have step := covered.cover graph supertypes reference
      simpa [Graph.coverAll] using ih step references

theorem coverAll_same (same : ∀ item ∈ items, item.type = type) :
    graph.coverAll catalog type items = type := by
  induction items with
  | nil => rfl
  | cons item rest ih =>
      obtain ⟨here, others⟩ := List.forall_mem_cons.mp same
      rw [coverAll, List.foldl_cons, here, cover, if_pos rfl]
      exact ih others

theorem coverAll_int (intLike : ∀ item ∈ items, item.type.isIntLike = true) :
    graph.coverAll catalog TypeName.int items = TypeName.int := by
  induction items with
  | nil => rfl
  | cons item rest ih =>
      obtain ⟨here, others⟩ := List.forall_mem_cons.mp intLike
      have covered : graph.cover catalog TypeName.int item.type = TypeName.int := by
        by_cases same : TypeName.int = item.type
        · rw [cover, if_pos same]
        · exact graph.cover_intLike same (by decide) here
      rw [coverAll, List.foldl_cons, covered]
      exact ih others

/-- Numbers of different types are covered by the type of `int` constants. -/
theorem coverAll_intLike (typeIntLike : type.isIntLike = true)
    (intLike : ∀ item ∈ items, item.type.isIntLike = true)
    (different : ∃ item ∈ items, item.type ≠ type) :
    graph.coverAll catalog type items = TypeName.int := by
  induction items with
  | nil =>
      obtain ⟨_, member, _⟩ := different
      cases member
  | cons item rest ih =>
      obtain ⟨here, others⟩ := List.forall_mem_cons.mp intLike
      by_cases same : type = item.type
      · obtain ⟨other, member, apart⟩ := different
        have later := (List.mem_cons.mp member).resolve_left
          fun isItem => apart (isItem ▸ same.symm)
        rw [coverAll, List.foldl_cons, cover, if_pos same]
        exact ih others ⟨other, later, apart⟩
      · rw [coverAll, List.foldl_cons, graph.cover_intLike same typeIntLike here]
        exact coverAll_int others

/-! ## The consensus of paths that disagree -/

/-- Where paths disagree, the type of the first covers those of the others in turn. -/
theorem consensusItem_of_disagreement (graph : Graph) (catalog : Catalog)
    {one other : TypedValue}
    (oneSeen : one ∈ graph.observed register) (otherSeen : other ∈ graph.observed register)
    (disagree : one ≠ other) :
    ∃ first rest, graph.observed register = first :: rest ∧
      graph.consensusItem catalog register =
        TypedValue.unknown (graph.coverAll catalog first.type rest) := by
  cases observed : graph.observed register with
  | nil =>
      rw [observed] at oneSeen
      cases oneSeen
  | cons first rest =>
      rw [observed] at oneSeen otherSeen
      refine ⟨first, rest, rfl, ?_⟩
      have notAll : rest.all (· == first) = false := by
        cases all : rest.all (· == first) with
        | false => rfl
        | true =>
            have same : ∀ seen ∈ first :: rest, seen = first := by simpa using all
            exact absurd ((same one oneSeen).trans (same other otherSeen).symm) disagree
      rw [consensusItem, consensus, observed]
      simp only [notAll]
      rfl

/-- Of paths that hold different things an unknown value is left.  Its type covers the classes
and arrays of all paths; it is their type if they hold things of one type; and numbers of
different types leave an `int`. -/
theorem consensusItem_covers (supertypes : catalog.ReferenceSupertypes)
    {one other : TypedValue} (oneSeen : one ∈ graph.observed register)
    (otherSeen : other ∈ graph.observed register) (disagree : one ≠ other) :
    ∃ type, graph.consensusItem catalog register = TypedValue.unknown type ∧
      ((∀ item ∈ graph.observed register, item.type.isReference = true) →
        ∀ item ∈ graph.observed register, type = item.type ∨ type = TypeName.object ∨
          ∃ chain, catalog.ancestors item.type = .ok chain ∧ type ∈ chain) ∧
      ((∀ item ∈ graph.observed register, item.type.isIntLike = true) →
        (¬ ∃ common, ∀ item ∈ graph.observed register, item.type = common) →
          type = TypeName.int) ∧
      ∀ common, (∀ item ∈ graph.observed register, item.type = common) → type = common := by
  obtain ⟨first, rest, observed, widened⟩ :=
    graph.consensusItem_of_disagreement catalog oneSeen otherSeen disagree
  have ofCommon (common : TypeName) (same : ∀ item ∈ first :: rest, item.type = common) :
      graph.coverAll catalog first.type rest = common := by
    obtain ⟨here, others⟩ := List.forall_mem_cons.mp same
    rw [here]
    exact coverAll_same others
  refine ⟨graph.coverAll catalog first.type rest, widened, ?_, ?_, ?_⟩
  · intro references item member
    rw [observed] at references member
    obtain ⟨here, others⟩ := List.forall_mem_cons.mp references
    have start : CoversSeen catalog [first.type] first.type :=
      ⟨here, by simpa using here, by simp [Catalog.Covers]⟩
    have covered := start.coverAll graph supertypes others
    have isSeen : item.type ∈ [first.type] ++ rest.map TypedValue.type :=
      List.mem_map_of_mem (f := TypedValue.type) member
    exact covered.covers item.type isSeen
  · intro intLike noCommon
    rw [observed] at intLike noCommon
    obtain ⟨here, others⟩ := List.forall_mem_cons.mp intLike
    refine coverAll_intLike here others ?_
    by_cases different : ∃ item ∈ rest, item.type ≠ first.type
    · exact different
    · refine absurd ⟨first.type, ?_⟩ noCommon
      simpa using different
  · rw [observed]
    exact ofCommon

/-- Two classes that extend a third. -/
def shapes : Catalog where
  classes :=
    [{ name := "Lapp/Shape;", superclass := some TypeName.object },
      { name := "Lapp/Circle;", superclass := some "Lapp/Shape;" },
      { name := "Lapp/Square;", superclass := some "Lapp/Shape;" }]

theorem referenceSupertypes_shapes : shapes.ReferenceSupertypes := by
  intro name definition found
  have member := List.mem_of_find?_eq_some found
  have all : ∀ definition ∈ shapes.classes, ∀ type ∈ definition.supertypes,
      type.isReference = true := by decide
  exact all definition member

/-- A method that returns a shape. -/
def drawing : Method where
  signature := "Lapp/Main;->draw()Lapp/Shape;"
  className := "Lapp/Main;"
  name := "draw"
  descriptor := "draw()Lapp/Shape;"
  declaredTypes := []
  returnType := "Lapp/Shape;"
  flags := AccessFlags.isStatic
  body := some 2

/-- A graph of two paths that return instances of different classes. -/
def shapesReturned : Graph where
  method := drawing
  nodes :=
    let blank : Activation :=
      { method := drawing, frame := Frame.forMethod drawing, heap := 0 }
    let returns (type : TypeName) : Activation :=
      blank.withFrame (blank.frame.poke .returned (TypedValue.unknown type))
    #[{ address := 0, activation := blank, children := [1, 2] },
      { address := 1, activation := returns "Lapp/Circle;" },
      { address := 2, activation := returns "Lapp/Square;" }]

theorem consensusItem_covers_shapesReturned :
    let circle := TypedValue.unknown "Lapp/Circle;"
    let square := TypedValue.unknown "Lapp/Square;"
    let observed := shapesReturned.observed .returned
    (shapes.ReferenceSupertypes ∧ circle ∈ observed ∧ square ∈ observed ∧ circle ≠ square) ∧
      ∃ type, shapesReturned.consensusItem shapes .returned = TypedValue.unknown type ∧
        ((∀ item ∈ observed, item.type.isReference = true) →
          ∀ item ∈ observed, type = item.type ∨ type = TypeName.object ∨
            ∃ chain, shapes.ancestors item.type = .ok chain ∧ type ∈ chain) ∧
        ((∀ item ∈ observed, item.type.isIntLike = true) →
          (¬ ∃ common, ∀ item ∈ observed, item.type = common) → type = TypeName.int) ∧
        ∀ common, (∀ item ∈ observed, item.type = common) → type = common := by
  intro circle square observed
  have circleSeen : circle ∈ observed := by decide +kernel
  have squareSeen : square ∈ observed := by decide +kernel
  have disagree : circle ≠ square := by decide
  exact ⟨⟨referenceSupertypes_shapes, circleSeen, squareSeen, disagree⟩,
    consensusItem_covers referenceSupertypes_shapes circleSeen squareSeen disagree⟩

end Graph

end Callsite
