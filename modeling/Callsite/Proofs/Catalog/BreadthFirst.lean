import Callsite.Proofs.Catalog.Levels
import Mathlib.Data.Nat.Find

/-!
# Breadth-first search for supertypes

The supertypes of a type can be looked for with a queue: types wait in it with the number of
steps to them, the one at the front is listed unless it is listed already, and its direct
supertypes are put at the back.  Visiting level after level is this search.  It ends for every
type, also where types are supertypes of each other, and what it lists is sorted by distance
(`Catalog.ancestors_breadthFirst`).
-/

namespace Callsite.Catalog

variable {catalog : Catalog} {name type : TypeName}
  {listed pending queued all next : List TypeName} {waiting : List (TypeName × Nat)}
  {steps levels : Nat} {result other : Except Error (List TypeName)}

/-! ## The search -/

/-- With some types listed, the search works off a queue and ends with a result.  A type that
waits too many steps away ends it, whether it is listed already or not. -/
inductive Search (catalog : Catalog) :
    List TypeName → List (TypeName × Nat) → Except Error (List TypeName) → Prop where
  | finished {listed : List TypeName} : Search catalog listed [] (.ok listed)
  | tooDeep {listed : List TypeName} {type : TypeName} {steps : Nat}
      {waiting : List (TypeName × Nat)} :
      maxDepth < steps →
      Search catalog listed ((type, steps) :: waiting) (.error (.hierarchyLimit maxDepth))
  | skipped {listed : List TypeName} {type : TypeName} {steps : Nat}
      {waiting : List (TypeName × Nat)} {result : Except Error (List TypeName)} :
      steps ≤ maxDepth → type ∈ listed →
      Search catalog listed waiting result →
      Search catalog listed ((type, steps) :: waiting) result
  | visited {listed : List TypeName} {type : TypeName} {steps : Nat}
      {waiting : List (TypeName × Nat)} {result : Except Error (List TypeName)} :
      steps ≤ maxDepth → type ∉ listed →
      Search catalog (listed ++ [type])
        (waiting ++ (catalog.supertypes type).map fun above => (above, steps + 1)) result →
      Search catalog listed ((type, steps) :: waiting) result

/-- The search has one result at most. -/
theorem Search.unique (search : catalog.Search listed waiting result)
    (again : catalog.Search listed waiting other) : other = result := by
  induction search with
  | finished =>
      cases again
      rfl
  | tooDeep deep =>
      cases again with
      | tooDeep _ => rfl
      | skipped shallow _ _ => exact absurd shallow (Nat.not_le_of_lt deep)
      | visited shallow _ _ => exact absurd shallow (Nat.not_le_of_lt deep)
  | skipped shallow member _ ih =>
      cases again with
      | tooDeep deep => exact absurd shallow (Nat.not_le_of_lt deep)
      | skipped _ _ rest => exact ih rest
      | visited _ fresh _ => exact absurd member fresh
  | visited shallow fresh _ ih =>
      cases again with
      | tooDeep deep => exact absurd shallow (Nat.not_le_of_lt deep)
      | skipped _ member _ => exact absurd member fresh
      | visited _ _ rest => exact ih rest

/-- While one level is worked off, the next one builds up behind it in the queue. -/
theorem Search.of_visitLevel (shallow : steps ≤ maxDepth)
    (visited : catalog.visitLevel listed pending = (all, next))
    (higher : catalog.Search all ((queued ++ next).map fun above => (above, steps + 1))
      result) :
    catalog.Search listed (pending.map (fun type => (type, steps)) ++
      queued.map fun above => (above, steps + 1)) result := by
  induction pending generalizing listed queued all next with
  | nil =>
      cases visited
      simpa using higher
  | cons name rest ih =>
      rw [visitLevel] at visited
      split at visited
      · next contained =>
          exact .skipped shallow (by simpa using contained) (ih visited higher)
      · next absent =>
          rcases continued : catalog.visitLevel (listed ++ [name]) rest with ⟨more, above⟩
          rw [continued] at visited
          cases visited
          rw [List.map_cons, List.cons_append]
          refine .visited shallow (by simpa using absent) ?_
          rw [List.append_assoc, ← List.map_append]
          apply ih continued
          rwa [List.append_assoc]

/-- Visiting all levels is the search: it ends, however the types of the hierarchy are
related. -/
theorem search_visitLevels (depth : levels + steps = maxDepth + 1) :
    catalog.Search listed (pending.map fun type => (type, steps))
      (catalog.visitLevels levels listed pending) := by
  induction levels generalizing listed pending steps with
  | zero =>
      cases pending with
      | nil => exact .finished
      | cons name rest => exact .tooDeep (by omega)
  | succ levels ih =>
      cases pending with
      | nil => exact .finished
      | cons name rest =>
          rw [visitLevels]
          rcases level : catalog.visitLevel listed (name :: rest) with ⟨all, next⟩
          have higher : catalog.Search all (([] ++ next).map fun above => (above, steps + 1))
              (catalog.visitLevels levels all next) := ih (by omega)
          have whole := Search.of_visitLevel (by omega) level higher
          rwa [List.map_nil, List.append_nil] at whole

/-! ## Distances -/

/-- The fewest steps in which a type is reached from another. -/
def Distance (catalog : Catalog) (name : TypeName) (steps : Nat) (type : TypeName) : Prop :=
  catalog.Climbs name steps type ∧ ∀ other, catalog.Climbs name other type → steps ≤ other

theorem Climbs.exists_distance (climbs : catalog.Climbs name steps type) :
    ∃ distance, catalog.Distance name distance type := by
  classical
  have reached : ∃ steps, catalog.Climbs name steps type := ⟨steps, climbs⟩
  exact ⟨Nat.find reached, Nat.find_spec reached, fun _ other => Nat.find_min' reached other⟩

/-- A distance is no greater than that of a type which is no nearer. -/
theorem NoFarther.distance_le {near far : TypeName} {more : Nat}
    (noFarther : catalog.NoFarther name near far) (nearest : catalog.Distance name steps near)
    (farthest : catalog.Distance name more far) : steps ≤ more := by
  obtain ⟨fewer, within, climbs⟩ := noFarther more farthest.1
  exact Nat.le_trans (nearest.2 fewer climbs) within

/-- What is listed has distances, and those never decrease along the list. -/
theorem Visited.exists_distances (visited : catalog.Visited name levels listed []) :
    ∃ distance : TypeName → Nat,
      (∀ type ∈ listed, catalog.Distance name (distance type) type) ∧
      listed.Pairwise fun near far => distance near ≤ distance far := by
  have measured (type : TypeName) :
      ∃ distance, type ∈ listed → catalog.Distance name distance type := by
    by_cases member : type ∈ listed
    · obtain ⟨steps, climbs⟩ := visited.mem_iff.mp member
      obtain ⟨distance, shortest⟩ := climbs.exists_distance
      exact ⟨distance, fun _ => shortest⟩
    · exact ⟨0, fun listed => absurd listed member⟩
  choose distance shortest using measured
  refine ⟨distance, shortest, visited.sorted.imp_of_mem ?_⟩
  intro near far isNear isFar noFarther
  exact noFarther.distance_le (shortest near isNear) (shortest far isFar)

/-- For every type the search for its supertypes ends, and the chain is what it lists, with
the root class behind it if that is not reached.  A chain begins with the type itself and
lists what can be reached, each type once and those at a shorter distance first. -/
theorem ancestors_breadthFirst (catalog : Catalog) (name : TypeName) :
    (∃ found, (∀ result, catalog.Search [] [(name, 0)] result ↔ result = found) ∧
      catalog.ancestors name =
        if name.isPrimitive then .ok [name]
        else (catalog.resolve name).bind fun _ => found.map withRoot) ∧
    ∀ chain, name.isPrimitive = false → catalog.ancestors name = .ok chain →
      ∃ (reached : List TypeName) (distance : TypeName → Nat),
        chain = withRoot reached ∧ chain.head? = some name ∧ chain.Nodup ∧
        (∀ type, type ∈ reached ↔ ∃ steps, catalog.Climbs name steps type) ∧
        (∀ type ∈ reached, catalog.Distance name (distance type) type) ∧
        reached.Pairwise fun near far => distance near ≤ distance far := by
  have search : catalog.Search [] ([name].map fun type => (type, 0))
      (catalog.visitLevels (maxDepth + 1) [] [name]) := search_visitLevels rfl
  refine ⟨⟨_, ?_, ancestors_eq_map_visitLevels catalog name⟩, ?_⟩
  · intro result
    constructor
    · exact search.unique
    · rintro rfl
      exact search
  · intro chain notPrimitive listing
    obtain ⟨levels, reached, visited, nodup, rfl⟩ :=
      exists_visited_of_ancestors notPrimitive listing
    obtain ⟨distance, shortest, sorted⟩ := visited.exists_distances
    obtain ⟨rest, begins⟩ := exists_eq_cons_of_ancestors notPrimitive listing
    have head : (withRoot reached).head? = some name := by rw [begins, List.head?_cons]
    exact ⟨reached, distance, rfl, head, nodup_withRoot nodup, fun _ => visited.mem_iff,
      shortest, sorted⟩

/-- Two classes that extend each other, of which one implements an interface that is not
registered. -/
def entangled : Catalog where
  classes :=
    [{ name := "Lapp/A;", superclass := some "Lapp/B;", interfaces := ["Lapp/I;"] },
      { name := "Lapp/B;", superclass := some "Lapp/A;" }]

theorem ancestors_breadthFirst_entangled :
    let name : TypeName := "Lapp/A;"
    let chain := [name, "Lapp/B;", "Lapp/I;", TypeName.object]
    (name.isPrimitive = false ∧ entangled.ancestors name = .ok chain) ∧
      (∃ found, (∀ result, entangled.Search [] [(name, 0)] result ↔ result = found) ∧
        entangled.ancestors name =
          if name.isPrimitive then .ok [name]
          else (entangled.resolve name).bind fun _ => found.map withRoot) ∧
      ∃ (reached : List TypeName) (distance : TypeName → Nat),
        chain = withRoot reached ∧ chain.head? = some name ∧ chain.Nodup ∧
        (∀ type, type ∈ reached ↔ ∃ steps, entangled.Climbs name steps type) ∧
        (∀ type ∈ reached, entangled.Distance name (distance type) type) ∧
        reached.Pairwise fun near far => distance near ≤ distance far := by
  intro name chain
  have notPrimitive : name.isPrimitive = false := by decide
  have listing : entangled.ancestors name = .ok chain := rfl
  exact ⟨⟨notPrimitive, listing⟩, (ancestors_breadthFirst entangled name).1,
    (ancestors_breadthFirst entangled name).2 chain notPrimitive listing⟩

end Callsite.Catalog
