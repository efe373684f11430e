import Callsite.Proofs.Catalog.BreadthFirst

/-!
# Where a hierarchy is too deep

After each level of a hierarchy the direct supertypes of its types wait to be visited, those
that are listed already among them.  So a search meets the limit exactly if a type at the
greatest distance that a chain may have has a direct supertype at all
(`Catalog.hierarchyLimit_iff`).  All types that are farther away are found out in this way,
but the limit is also met where the types that wait are ones that were listed nearer.
-/

namespace Callsite.Catalog

variable {catalog : Catalog} {name type above : TypeName} {steps levels : Nat}
  {listed pending all next : List TypeName} {cause : Error}

/-! ## Types at a distance -/

/-- A type waits to be visited after those at a distance: it is a direct supertype of one of
them. -/
def Awaited (catalog : Catalog) (name : TypeName) (steps : Nat) (above : TypeName) : Prop :=
  ∃ type, catalog.Distance name steps type ∧ above ∈ catalog.supertypes type

/-- Some type is farther away than any that a chain lists. -/
def TooDeep (catalog : Catalog) (name : TypeName) : Prop :=
  ∃ type steps, catalog.Distance name steps type ∧ maxDepth < steps

theorem Awaited.climbs (awaited : catalog.Awaited name steps above) :
    catalog.Climbs name (steps + 1) above := by
  obtain ⟨type, distance, direct⟩ := awaited
  exact .up distance.1 direct

/-- The last step to a type starts at a type that is one step nearer. -/
theorem Distance.awaited (distance : catalog.Distance name (steps + 1) above) :
    catalog.Awaited name steps above := by
  obtain ⟨climbs, shortest⟩ := distance
  cases climbs with
  | @up _ type _ climbs direct =>
      refine ⟨type, ⟨climbs, ?_⟩, direct⟩
      intro other reached
      exact Nat.le_of_succ_le_succ (shortest (other + 1) (.up reached direct))

/-- On the way to a type there are types at all shorter distances. -/
theorem Distance.exists_of_le {fewer : Nat} (distance : catalog.Distance name steps type)
    (nearer : fewer ≤ steps) : ∃ near, catalog.Distance name fewer near := by
  induction nearer using Nat.decreasingInduction generalizing type with
  | self => exact ⟨type, distance⟩
  | of_succ fewer _ ih =>
      obtain ⟨near, reached⟩ := ih distance
      obtain ⟨nearest, before, _⟩ := reached.awaited
      exact ⟨nearest, before⟩

/-- A hierarchy is too deep exactly if some type is one step too far away. -/
theorem tooDeep_iff :
    catalog.TooDeep name ↔
      ∃ above, catalog.Awaited name maxDepth above ∧
        catalog.Distance name (maxDepth + 1) above := by
  constructor
  · rintro ⟨type, steps, distance, far⟩
    obtain ⟨above, justAbove⟩ := distance.exists_of_le far
    exact ⟨above, justAbove.awaited, justAbove⟩
  · rintro ⟨above, _, distance⟩
    exact ⟨above, maxDepth + 1, distance, Nat.lt_succ_self maxDepth⟩

/-! ## What is left to visit -/

namespace Visited

/-- The types of a level that were not listed before are those at that distance. -/
theorem distance_iff (visited : catalog.Visited name levels listed pending) :
    catalog.Distance name levels type ↔ type ∈ pending ∧ type ∉ listed := by
  constructor
  · rintro ⟨climbs, shortest⟩
    have fresh : type ∉ listed := by
      intro member
      obtain ⟨fewer, early, reached⟩ := visited.listed_below type member
      exact absurd (shortest fewer reached) (Nat.not_le_of_lt early)
    exact ⟨(visited.at_covered type climbs).resolve_left fresh, fresh⟩
  · rintro ⟨pended, fresh⟩
    exact ⟨visited.pending_at type pended, fun _ => visited.le_of_not_mem fresh⟩

/-- What is left to visit after a level waits after the types at its distance. -/
theorem mem_next_iff (visited : catalog.Visited name levels listed pending)
    (level : catalog.visitLevel listed pending = (all, next)) :
    above ∈ next ↔ catalog.Awaited name levels above := by
  obtain ⟨fresh, rfl, new, covered, rfl⟩ := exists_fresh_of_visitLevel level
  have mem_fresh_iff (type : TypeName) :
      type ∈ fresh ↔ catalog.Distance name levels type := by
    rw [visited.distance_iff]
    constructor
    · exact new type
    · rintro ⟨pended, notListed⟩
      exact (List.mem_append.mp (covered type pended)).resolve_left notListed
  simp only [List.mem_flatMap, mem_fresh_iff, Awaited]

/-- When nothing is pending, no type is as far away as the levels that were visited. -/
theorem not_distance (visited : catalog.Visited name levels listed []) (more : Nat) :
    ¬ catalog.Distance name (levels + more) type := by
  rintro ⟨climbs, shortest⟩
  obtain ⟨fewer, early, reached⟩ :=
    visited.listed_below type (visited.mem_of_climbs climbs)
  have := shortest fewer reached
  omega

/-- Visiting some more levels fails exactly if a type waits to be visited after the last of
them. -/
theorem visitLevels_eq_error_iff (visited : catalog.Visited name levels listed pending)
    (more : Nat) :
    catalog.visitLevels (more + 1) listed pending = .error cause ↔
      cause = .hierarchyLimit maxDepth ∧
        ∃ above, catalog.Awaited name (levels + more) above := by
  induction more generalizing levels listed pending with
  | zero =>
      cases pending with
      | nil =>
          simp only [visitLevels, reduceCtorEq, false_iff]
          rintro ⟨_, above, type, distance, _⟩
          exact visited.not_distance 0 distance
      | cons head rest =>
          rcases level : catalog.visitLevel listed (head :: rest) with ⟨all, next⟩
          simp only [visitLevels, level, Nat.add_zero, ← visited.mem_next_iff level]
          cases next with
          | nil => simp [visitLevels]
          | cons first others => simp [visitLevels, eq_comm]
  | succ more ih =>
      cases pending with
      | nil =>
          simp only [visitLevels, reduceCtorEq, false_iff]
          rintro ⟨_, above, type, distance, _⟩
          exact visited.not_distance (more + 1) distance
      | cons head rest =>
          rcases level : catalog.visitLevel listed (head :: rest) with ⟨all, next⟩
          rw [visitLevels, level]
          simp only
          rw [ih (visited.step level), Nat.add_assoc, Nat.add_comm 1]

end Visited

/-! ## The limit of chains -/

/-- A name that nothing is known of has no supertypes. -/
theorem supertypes_of_resolve_eq_error (unknown : catalog.resolve name = .error cause) :
    catalog.supertypes name = [] := by
  rw [supertypes, unknown]

/-- Nothing is above a name that nothing is known of. -/
theorem not_awaited_of_resolve_eq_error (unknown : catalog.resolve name = .error cause) :
    ¬ catalog.Awaited name steps above := by
  intro awaited
  have only (steps : Nat) (type : TypeName) (climbs : catalog.Climbs name steps type) :
      steps = 0 ∧ type = name := by
    induction climbs with
    | here => exact ⟨rfl, rfl⟩
    | up _ direct ih =>
        rw [ih.2, supertypes_of_resolve_eq_error unknown] at direct
        cases direct
  exact absurd (only (steps + 1) above awaited.climbs).1 (Nat.succ_ne_zero steps)

/-- The search for the supertypes of a type that is no primitive comes to one of three
things. -/
theorem ancestors_cases (catalog : Catalog) (notPrimitive : name.isPrimitive = false) :
    (catalog.resolve name = .error (.typeNotFound name) ∧
        catalog.ancestors name = .error (.typeNotFound name)) ∨
      (∃ definition, catalog.resolve name = .ok definition) ∧
        ((∃ above, catalog.Awaited name maxDepth above) ∧
            catalog.ancestors name = .error (.hierarchyLimit maxDepth) ∨
          (¬ ∃ above, catalog.Awaited name maxDepth above) ∧
            ∃ chain, catalog.ancestors name = .ok chain) := by
  rw [ancestors_eq_map_visitLevels, notPrimitive, if_neg Bool.false_ne_true]
  cases resolved : catalog.resolve name with
  | error cause =>
      left
      have missing : cause = .typeNotFound name := by
        rw [resolve] at resolved
        split at resolved
        · cases resolved
        · split at resolved
          · cases resolved
          · cases resolved
            rfl
      rw [missing]
      exact ⟨rfl, rfl⟩
  | ok definition =>
      right
      refine ⟨⟨definition, rfl⟩, ?_⟩
      have failing (cause : Error) :
          catalog.visitLevels (maxDepth + 1) [] [name] = .error cause ↔
            cause = .hierarchyLimit maxDepth ∧
              ∃ above, catalog.Awaited name (0 + maxDepth) above :=
        (Visited.start catalog name).visitLevels_eq_error_iff maxDepth
      rw [Nat.zero_add] at failing
      simp only [Except.bind]
      cases searched : catalog.visitLevels (maxDepth + 1) [] [name] with
      | error cause =>
          left
          obtain ⟨rfl, awaited⟩ := (failing cause).mp searched
          exact ⟨awaited, rfl⟩
      | ok listed =>
          right
          refine ⟨?_, withRoot listed, rfl⟩
          intro awaited
          have failed := (failing _).mpr ⟨rfl, awaited⟩
          rw [searched] at failed
          cases failed

/-- The limit is met exactly if something waits to be visited after the types at the greatest
distance that a chain lists. -/
theorem ancestors_eq_limit_iff (notPrimitive : name.isPrimitive = false) {limit : Nat} :
    catalog.ancestors name = .error (.hierarchyLimit limit) ↔
      limit = maxDepth ∧ ∃ above, catalog.Awaited name maxDepth above := by
  rcases catalog.ancestors_cases notPrimitive with
    ⟨unknown, missing⟩ | ⟨_, ⟨awaited, tooDeep⟩ | ⟨none, chain, listing⟩⟩
  · constructor
    · intro failed
      rw [missing] at failed
      cases failed
    · rintro ⟨_, above, awaited⟩
      exact absurd awaited (not_awaited_of_resolve_eq_error unknown)
  · rw [tooDeep]
    constructor
    · intro failed
      cases failed
      exact ⟨rfl, awaited⟩
    · rintro ⟨rfl, _⟩
      rfl
  · rw [listing]
    constructor
    · intro failed
      cases failed
    · rintro ⟨_, awaited⟩
      exact absurd awaited none

/-- A type that is known has a chain exactly if nothing waits after that distance. -/
theorem exists_chain_iff (notPrimitive : name.isPrimitive = false) :
    (∃ chain, catalog.ancestors name = .ok chain) ↔
      (∃ definition, catalog.resolve name = .ok definition) ∧
        ¬ ∃ above, catalog.Awaited name maxDepth above := by
  rcases catalog.ancestors_cases notPrimitive with
    ⟨unknown, missing⟩ | ⟨known, ⟨awaited, tooDeep⟩ | ⟨none, chain, listing⟩⟩
  · rw [unknown, missing]
    simp
  · rw [tooDeep]
    simp [awaited]
  · exact ⟨fun _ => ⟨known, none⟩, fun _ => ⟨chain, listing⟩⟩

/-- What waits after a distance is one step too far away, or it is nearer. -/
theorem Awaited.distance_or_nearer (awaited : catalog.Awaited name steps above) :
    catalog.Distance name (steps + 1) above ∨
      ∃ nearer ≤ steps, catalog.Distance name nearer above := by
  obtain ⟨distance, shortest⟩ := awaited.climbs.exists_distance
  rcases Nat.lt_or_eq_of_le (shortest.2 (steps + 1) awaited.climbs) with early | rfl
  · exact .inr ⟨distance, Nat.le_of_lt_succ early, shortest⟩
  · exact .inl shortest

/-- A hierarchy is not too deep exactly if all that waits after the greatest distance is
nearer. -/
theorem not_tooDeep_iff :
    ¬ catalog.TooDeep name ↔ ∀ above, catalog.Awaited name maxDepth above →
      ∃ nearer ≤ maxDepth, catalog.Distance name nearer above := by
  rw [tooDeep_iff]
  constructor
  · intro shallow above awaited
    exact awaited.distance_or_nearer.resolve_left fun far => shallow ⟨above, awaited, far⟩
  · rintro nearer ⟨above, awaited, far⟩
    obtain ⟨distance, within, shortest⟩ := nearer above awaited
    have := far.2 distance shortest.1
    omega

/-- The limit is met by a type that is no primitive exactly if something waits to be visited
after the types at the greatest distance that a chain lists.  Hierarchies that are too deep
are those where some of that is farther away, so they all meet the limit; it is met early
where all of that is nearer.  Cycles and types that are mentioned again matter nowhere else:
whatever is known and does not meet the limit has a chain. -/
theorem hierarchyLimit_iff (catalog : Catalog) (name : TypeName) :
    (∀ limit, catalog.ancestors name = .error (.hierarchyLimit limit) ↔
      limit = maxDepth ∧ name.isPrimitive = false ∧
        ∃ above, catalog.Awaited name maxDepth above) ∧
    (catalog.TooDeep name ↔ ∃ above, catalog.Awaited name maxDepth above ∧
      catalog.Distance name (maxDepth + 1) above) ∧
    (name.isPrimitive = false →
      (catalog.ancestors name = .error (.hierarchyLimit maxDepth) ∧ ¬ catalog.TooDeep name ↔
        (∃ above, catalog.Awaited name maxDepth above) ∧
          ∀ above, catalog.Awaited name maxDepth above →
            ∃ nearer ≤ maxDepth, catalog.Distance name nearer above)) ∧
    ((∃ chain, catalog.ancestors name = .ok chain) ↔
      name.isPrimitive = true ∨ (∃ definition, catalog.resolve name = .ok definition) ∧
        ¬ ∃ above, catalog.Awaited name maxDepth above) := by
  cases primitive : name.isPrimitive with
  | true =>
      have listing := catalog.ancestors_of_isPrimitive primitive
      refine ⟨?_, tooDeep_iff, nofun, ?_⟩
      · intro limit
        simp [listing]
      · simp [listing]
  | false =>
      refine ⟨?_, tooDeep_iff, ?_, ?_⟩
      · intro limit
        simp only [ancestors_eq_limit_iff primitive, true_and]
      · intro _
        rw [ancestors_eq_limit_iff primitive, not_tooDeep_iff]
        simp only [true_and]
      · simp only [exists_chain_iff primitive, Bool.false_eq_true, false_or]

/-! ## A limit that is met early -/

/-- The name of a class by its number. -/
def rung (number : Nat) : TypeName :=
  "Lapp/C" ++ Decimal.ofNat number ++ ";"

/-- A class of a ladder. -/
def rungClass (number : Nat) : ClassDef where
  name := rung number
  superclass := if number < maxDepth then some (rung (number + 1)) else none
  interfaces := if number = 0 ∨ number = maxDepth then ["Lapp/Marker;"] else []

/-- Classes that extend each other, as many as there can be under one another, of which both
the lowest and the highest implement an interface. -/
def ladder : Catalog where
  classes := (List.range (maxDepth + 1)).map rungClass

theorem rung_injective {left right : Nat} (same : rung left = rung right) : left = right := by
  have digits : Decimal.digits left = Decimal.digits right := by
    have texts := congrArg String.toList same
    simpa [rung, Decimal.ofNat] using texts
  have read := Decimal.natural?_digits left
  rw [digits, Decimal.natural?_digits] at read
  exact (Option.some.inj read).symm

theorem rung_ne_marker (number : Nat) : rung number ≠ "Lapp/Marker;" := by
  intro same
  have letters := congrArg (fun text : String => text.toList[5]?) same
  simp [rung] at letters

theorem find?_ladder_rung {number : Nat} (within : number ≤ maxDepth) :
    ladder.find? (rung number) = some (rungClass number) := by
  have member : rungClass number ∈ ladder.classes :=
    List.mem_map_of_mem (List.mem_range.mpr (Nat.lt_succ_of_le within))
  cases found : ladder.find? (rung number) with
  | none =>
      have missing := List.find?_eq_none.mp found _ member
      simp [rungClass] at missing
  | some definition =>
      obtain ⟨other, _, rfl⟩ := List.mem_map.mp (List.mem_of_find?_eq_some found)
      have named := List.find?_some
        (p := fun definition : ClassDef => definition.name == rung number) found
      rw [rung_injective (eq_of_beq named)]

theorem supertypes_ladder_rung {number : Nat} (within : number ≤ maxDepth) :
    ladder.supertypes (rung number) = (rungClass number).supertypes := by
  rw [supertypes, resolve, find?_ladder_rung within]

theorem supertypes_ladder_marker : ladder.supertypes "Lapp/Marker;" = [] := by
  have absent : ladder.find? "Lapp/Marker;" = none := by
    rw [find?, List.find?_eq_none]
    intro definition member
    obtain ⟨number, _, rfl⟩ := List.mem_map.mp member
    simpa [rungClass] using rung_ne_marker number
  have noArray : TypeName.isArray "Lapp/Marker;" = false := by decide
  simp [supertypes, resolve, absent, noArray]

/-- A class of the ladder is reached in as many steps as it is higher, and else there is only
the interface. -/
theorem eq_rung_or_marker_of_climbs (climbs : ladder.Climbs (rung 0) steps type) :
    type = rung steps ∧ steps ≤ maxDepth ∨ type = "Lapp/Marker;" := by
  induction climbs with
  | here => exact .inl ⟨rfl, Nat.zero_le maxDepth⟩
  | @up steps below above climbs direct ih =>
      rcases ih with ⟨rfl, within⟩ | rfl
      · simp only [supertypes_ladder_rung within, ClassDef.supertypes, rungClass] at direct
        rcases List.mem_append.mp direct with extended | implemented
        · left
          split at extended
          · next lower => exact ⟨by simpa using extended, lower⟩
          · cases extended
        · right
          split at implemented
          · exact List.mem_singleton.mp implemented
          · cases implemented
      · rw [supertypes_ladder_marker] at direct
        cases direct

theorem distance_rung {number : Nat} (within : number ≤ maxDepth) :
    ladder.Distance (rung 0) number (rung number) := by
  constructor
  · induction number with
    | zero => exact .here
    | succ number ih =>
        refine .up (ih (Nat.le_of_succ_le within)) ?_
        rw [supertypes_ladder_rung (Nat.le_of_succ_le within)]
        simp [ClassDef.supertypes, rungClass, Nat.lt_of_succ_le within]
  · intro other climbs
    rcases eq_rung_or_marker_of_climbs climbs with ⟨same, _⟩ | marker
    · exact Nat.le_of_eq (rung_injective same)
    · exact absurd marker (rung_ne_marker number)

/-- The interface is above the lowest class of the ladder. -/
theorem climbs_marker : ladder.Climbs (rung 0) 1 "Lapp/Marker;" := by
  refine .up .here ?_
  rw [supertypes_ladder_rung (Nat.zero_le maxDepth)]
  simp [ClassDef.supertypes, rungClass]

/-- The interface is above the highest class of the ladder too. -/
theorem awaited_marker : ladder.Awaited (rung 0) maxDepth "Lapp/Marker;" := by
  refine ⟨rung maxDepth, distance_rung (Nat.le_refl maxDepth), ?_⟩
  rw [supertypes_ladder_rung (Nat.le_refl maxDepth)]
  simp [ClassDef.supertypes, rungClass]

theorem not_tooDeep_ladder : ¬ ladder.TooDeep (rung 0) := by
  rintro ⟨type, steps, distance, far⟩
  rcases eq_rung_or_marker_of_climbs distance.1 with ⟨_, within⟩ | rfl
  · exact absurd far (Nat.not_lt_of_le within)
  · have near := distance.2 1 climbs_marker
    rw [maxDepth] at far
    omega

theorem hierarchyLimit_iff_ladder :
    let name := rung 0
    name.isPrimitive = false ∧
      (∀ limit, ladder.ancestors name = .error (.hierarchyLimit limit) ↔
        limit = maxDepth ∧ name.isPrimitive = false ∧
          ∃ above, ladder.Awaited name maxDepth above) ∧
      (ladder.TooDeep name ↔ ∃ above, ladder.Awaited name maxDepth above ∧
        ladder.Distance name (maxDepth + 1) above) ∧
      (ladder.ancestors name = .error (.hierarchyLimit maxDepth) ∧ ¬ ladder.TooDeep name ↔
        (∃ above, ladder.Awaited name maxDepth above) ∧
          ∀ above, ladder.Awaited name maxDepth above →
            ∃ nearer ≤ maxDepth, ladder.Distance name nearer above) ∧
      ((∃ chain, ladder.ancestors name = .ok chain) ↔
        name.isPrimitive = true ∨ (∃ definition, ladder.resolve name = .ok definition) ∧
          ¬ ∃ above, ladder.Awaited name maxDepth above) := by
  intro name
  have notPrimitive : name.isPrimitive = false := by decide +kernel
  obtain ⟨limit, deep, early, chain⟩ := hierarchyLimit_iff ladder name
  exact ⟨notPrimitive, limit, deep, early notPrimitive, chain⟩

/-- The limit is met by a class all of whose supertypes are near enough: one of them is
mentioned again at the top of the ladder. -/
theorem hierarchyLimit_early_ladder :
    ¬ ∀ (catalog : Catalog) (name : TypeName),
      (name.isPrimitive = true ∨ ∃ definition, catalog.resolve name = .ok definition) →
        ((∃ limit, catalog.ancestors name = .error (.hierarchyLimit limit)) ↔
          catalog.TooDeep name) := by
  intro fires
  have notPrimitive : (rung 0).isPrimitive = false := by decide +kernel
  have registered : ladder.resolve (rung 0) = .ok (rungClass 0) := by
    rw [resolve, find?_ladder_rung (Nat.zero_le maxDepth)]
  have failed : ladder.ancestors (rung 0) = .error (.hierarchyLimit maxDepth) :=
    (ancestors_eq_limit_iff notPrimitive).mpr ⟨rfl, "Lapp/Marker;", awaited_marker⟩
  exact not_tooDeep_ladder
    ((fires ladder (rung 0) (.inr ⟨rungClass 0, registered⟩)).mp ⟨maxDepth, failed⟩)

end Callsite.Catalog
