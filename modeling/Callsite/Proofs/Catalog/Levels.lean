import Callsite.Catalog
import Mathlib.Data.List.Nodup

/-!
# The levels of a hierarchy

A chain of supertypes lists what can be reached from a type by climbing from types to their
direct supertypes, and the root class if it is not reached: everything that can be reached,
nothing else, and what takes fewer steps first.
-/

namespace Callsite.Catalog

variable {catalog : Catalog} {name type other : TypeName}

/-- A type is reached from another in a number of steps to direct supertypes. -/
inductive Climbs (catalog : Catalog) (name : TypeName) : Nat → TypeName → Prop where
  | here : Climbs catalog name 0 name
  | up {steps : Nat} {type above : TypeName} : Climbs catalog name steps type →
      above ∈ catalog.supertypes type → Climbs catalog name (steps + 1) above

/-- A type is no farther above a third one than another type is. -/
def NoFarther (catalog : Catalog) (name near far : TypeName) : Prop :=
  ∀ steps, catalog.Climbs name steps far → ∃ fewer ≤ steps, catalog.Climbs name fewer near

theorem Climbs.trans {steps more : Nat} (first : catalog.Climbs name steps type)
    (second : catalog.Climbs type more other) : catalog.Climbs name (steps + more) other := by
  induction second with
  | here => exact first
  | up _ direct ih => exact .up ih direct

/-! ## One level -/

/-- Visiting a level adds the types of it that were not listed, and their direct supertypes
are the next level. -/
theorem exists_fresh_of_visitLevel {listed pending all next : List TypeName}
    (visited : catalog.visitLevel listed pending = (all, next)) :
    ∃ fresh, all = listed ++ fresh ∧ (∀ type ∈ fresh, type ∈ pending ∧ type ∉ listed) ∧
      (∀ type ∈ pending, type ∈ all) ∧ next = fresh.flatMap catalog.supertypes := by
  induction pending generalizing listed all next with
  | nil =>
      cases visited
      exact ⟨[], by simp, by simp, by simp, rfl⟩
  | cons name rest ih =>
      rw [visitLevel] at visited
      split at visited
      · next contained =>
          have member : name ∈ listed := by simpa using contained
          obtain ⟨fresh, rfl, new, covered, rfl⟩ := ih visited
          refine ⟨fresh, rfl, ?_, ?_, rfl⟩
          · intro type added
            exact ⟨List.mem_cons_of_mem name (new type added).1, (new type added).2⟩
          · rintro type pended
            rcases List.mem_cons.mp pended with rfl | later
            · exact List.mem_append_left fresh member
            · exact covered type later
      · next absent =>
          have notListed : name ∉ listed := by simpa using absent
          rcases continued : catalog.visitLevel (listed ++ [name]) rest with ⟨more, higher⟩
          rw [continued] at visited
          cases visited
          obtain ⟨fresh, rfl, new, covered, rfl⟩ := ih continued
          refine ⟨name :: fresh, by simp, ?_, ?_, rfl⟩
          · intro type added
            rcases List.mem_cons.mp added with rfl | later
            · exact ⟨List.mem_cons_self, notListed⟩
            · obtain ⟨pended, notYet⟩ := new type later
              exact ⟨List.mem_cons_of_mem name pended,
                fun early => notYet (List.mem_append_left [name] early)⟩
          · intro type pended
            rcases List.mem_cons.mp pended with rfl | later
            · simp
            · exact covered type later

theorem nodup_visitLevel {listed pending all next : List TypeName} (nodup : listed.Nodup)
    (visited : catalog.visitLevel listed pending = (all, next)) : all.Nodup := by
  induction pending generalizing listed all next with
  | nil =>
      cases visited
      exact nodup
  | cons name rest ih =>
      rw [visitLevel] at visited
      split at visited
      · exact ih nodup visited
      · next absent =>
          rcases continued : catalog.visitLevel (listed ++ [name]) rest with ⟨more, higher⟩
          rw [continued] at visited
          cases visited
          apply ih _ continued
          rw [← List.concat_eq_append]
          exact nodup.concat (by simpa using absent)

/-! ## All levels -/

/-- What was listed and what is pending when a number of levels has been visited. -/
structure Visited (catalog : Catalog) (name : TypeName) (levels : Nat)
    (listed pending : List TypeName) : Prop where
  listed_below : ∀ type ∈ listed, ∃ steps < levels, catalog.Climbs name steps type
  pending_at : ∀ type ∈ pending, catalog.Climbs name levels type
  below_listed : ∀ steps < levels, ∀ type, catalog.Climbs name steps type → type ∈ listed
  at_covered : ∀ type, catalog.Climbs name levels type → type ∈ listed ∨ type ∈ pending
  sorted : listed.Pairwise (catalog.NoFarther name)

namespace Visited

variable {levels : Nat} {listed pending all next : List TypeName}

theorem start (catalog : Catalog) (name : TypeName) : catalog.Visited name 0 [] [name] where
  listed_below _ member := nomatch member
  pending_at type member := List.mem_singleton.mp member ▸ .here
  below_listed _ impossible := absurd impossible (Nat.not_lt_zero _)
  at_covered type climbs := by
    cases climbs
    exact .inr (List.mem_singleton_self name)
  sorted := .nil

/-- Types that were not listed take all the steps that were taken. -/
theorem le_of_not_mem (visited : catalog.Visited name levels listed pending) {steps : Nat}
    (fresh : type ∉ listed) (climbs : catalog.Climbs name steps type) : levels ≤ steps := by
  rcases Nat.lt_or_ge steps levels with early | late
  · exact absurd (visited.below_listed steps early type climbs) fresh
  · exact late

theorem step (visited : catalog.Visited name levels listed pending)
    (level : catalog.visitLevel listed pending = (all, next)) :
    catalog.Visited name (levels + 1) all next := by
  obtain ⟨fresh, rfl, new, covered, rfl⟩ := exists_fresh_of_visitLevel level
  have below_listed (steps : Nat) (fewer : steps < levels + 1) (type : TypeName)
      (climbs : catalog.Climbs name steps type) : type ∈ listed ++ fresh := by
    rcases Nat.lt_succ_iff_lt_or_eq.mp fewer with early | rfl
    · exact List.mem_append_left fresh (visited.below_listed steps early type climbs)
    · rcases visited.at_covered type climbs with before | pended
      · exact List.mem_append_left fresh before
      · exact covered type pended
  constructor
  case listed_below =>
    intro type member
    rcases List.mem_append.mp member with before | added
    · obtain ⟨steps, fewer, climbs⟩ := visited.listed_below type before
      exact ⟨steps, Nat.lt_succ_of_lt fewer, climbs⟩
    · exact ⟨levels, Nat.lt_succ_self levels, visited.pending_at type (new type added).1⟩
  case pending_at =>
    intro type member
    obtain ⟨below, added, direct⟩ := List.mem_flatMap.mp member
    exact .up (visited.pending_at below (new below added).1) direct
  case below_listed => exact below_listed
  case at_covered =>
    intro type climbs
    cases climbs with
    | @up _ below _ climbs direct =>
        rcases List.mem_append.mp (below_listed levels (Nat.lt_succ_self levels) below climbs)
          with before | added
        · obtain ⟨steps, fewer, early⟩ := visited.listed_below below before
          exact .inl (below_listed (steps + 1) (Nat.succ_lt_succ fewer) type (.up early direct))
        · exact .inr (List.mem_flatMap.mpr ⟨below, added, direct⟩)
  case sorted =>
    refine List.pairwise_append.mpr ⟨visited.sorted, ?_, ?_⟩
    · refine List.pairwise_of_forall_mem_list ?_
      intro near isNear far isFar steps climbs
      exact ⟨levels, visited.le_of_not_mem (new far isFar).2 climbs,
        visited.pending_at near (new near isNear).1⟩
    · intro near isNear far isFar steps climbs
      obtain ⟨fewer, early, reached⟩ := visited.listed_below near isNear
      have late := visited.le_of_not_mem (new far isFar).2 climbs
      exact ⟨fewer, Nat.le_of_lt (Nat.lt_of_lt_of_le early late), reached⟩

/-- When nothing is pending, everything that can be reached is listed. -/
theorem mem_of_climbs (visited : catalog.Visited name levels listed []) {steps : Nat}
    (climbs : catalog.Climbs name steps type) : type ∈ listed := by
  induction climbs with
  | here =>
      rcases Nat.eq_zero_or_pos levels with rfl | some
      · exact (visited.at_covered name .here).resolve_right List.not_mem_nil
      · exact visited.below_listed 0 some name .here
  | @up steps type above climbs direct ih =>
      obtain ⟨fewer, early, reached⟩ := visited.listed_below type ih
      rcases Nat.lt_or_eq_of_le (Nat.succ_le_of_lt early) with inside | last
      · exact visited.below_listed (fewer + 1) inside above (.up reached direct)
      · have atLast : catalog.Climbs name levels above := last ▸ .up reached direct
        exact (visited.at_covered above atLast).resolve_right List.not_mem_nil

/-- When nothing is pending, what is listed is what can be reached. -/
theorem mem_iff (visited : catalog.Visited name levels listed []) :
    type ∈ listed ↔ ∃ steps, catalog.Climbs name steps type := by
  constructor
  · intro member
    obtain ⟨steps, _, climbs⟩ := visited.listed_below type member
    exact ⟨steps, climbs⟩
  · rintro ⟨steps, climbs⟩
    exact visited.mem_of_climbs climbs

theorem run (visited : catalog.Visited name levels listed pending) {more : Nat}
    (finished : catalog.visitLevels more listed pending = .ok all) :
    ∃ levels, catalog.Visited name levels all [] := by
  induction more generalizing levels listed pending with
  | zero =>
      cases pending with
      | nil =>
          cases finished
          exact ⟨levels, visited⟩
      | cons _ _ => cases finished
  | succ more ih =>
      cases pending with
      | nil =>
          cases finished
          exact ⟨levels, visited⟩
      | cons head rest =>
          rw [visitLevels] at finished
          rcases level : catalog.visitLevel listed (head :: rest) with ⟨all, next⟩
          rw [level] at finished
          exact ih (visited.step level) finished

end Visited

/-! ## Chains of supertypes -/

theorem name_of_resolve {definition : ClassDef}
    (resolved : catalog.resolve name = .ok definition) : definition.name = name := by
  rw [resolve] at resolved
  split at resolved
  · next found =>
      cases resolved
      have named := List.find?_some (p := fun other : ClassDef => other.name == name) found
      exact eq_of_beq named
  · split at resolved
    · cases resolved
      rfl
    · cases resolved

theorem nodup_visitLevels {levels : Nat} {listed pending all : List TypeName}
    (nodup : listed.Nodup) (finished : catalog.visitLevels levels listed pending = .ok all) :
    all.Nodup := by
  induction levels generalizing listed pending with
  | zero =>
      cases pending with
      | nil =>
          cases finished
          exact nodup
      | cons _ _ => cases finished
  | succ levels ih =>
      cases pending with
      | nil =>
          cases finished
          exact nodup
      | cons name rest =>
          rw [visitLevels] at finished
          rcases level : catalog.visitLevel listed (name :: rest) with ⟨more, next⟩
          rw [level] at finished
          exact ih (nodup_visitLevel nodup level) finished

/-- The types that were reached, with the root class behind them if it is not among them. -/
def withRoot (reached : List TypeName) : List TypeName :=
  if reached.contains TypeName.object then reached else reached ++ [TypeName.object]

theorem mem_withRoot {reached : List TypeName} :
    type ∈ withRoot reached ↔ type = TypeName.object ∨ type ∈ reached := by
  by_cases root : TypeName.object ∈ reached
  · rw [withRoot, if_pos (by simpa using root)]
    constructor
    · exact .inr
    · rintro (rfl | member)
      · exact root
      · exact member
  · rw [withRoot, if_neg (by simpa using root), List.mem_append, List.mem_singleton, or_comm]

theorem nodup_withRoot {reached : List TypeName} (nodup : reached.Nodup) :
    (withRoot reached).Nodup := by
  rw [withRoot]
  split
  · exact nodup
  · next absent =>
      rw [← List.concat_eq_append]
      exact nodup.concat (by simpa using absent)

/-- A chain is what is listed when all levels are visited, with the root class. -/
theorem ancestors_eq_map_visitLevels (catalog : Catalog) (name : TypeName) :
    catalog.ancestors name =
      if name.isPrimitive then .ok [name]
      else (catalog.resolve name).bind fun _ =>
        (catalog.visitLevels (maxDepth + 1) [] [name]).map withRoot := by
  rw [ancestors]
  split
  · rfl
  · cases resolved : catalog.resolve name with
    | error cause => rfl
    | ok definition =>
        simp only [name_of_resolve resolved, Except.bind]
        cases catalog.visitLevels (maxDepth + 1) [] [name] <;> rfl

variable {chain : List TypeName}

theorem exists_visited_of_ancestors (notPrimitive : name.isPrimitive = false)
    (listing : catalog.ancestors name = .ok chain) :
    ∃ levels listed, catalog.Visited name levels listed [] ∧ listed.Nodup ∧
      chain = withRoot listed := by
  rw [ancestors_eq_map_visitLevels, notPrimitive, if_neg Bool.false_ne_true] at listing
  cases resolved : catalog.resolve name with
  | error cause =>
      rw [resolved] at listing
      cases listing
  | ok definition =>
      rw [resolved] at listing
      cases finished : catalog.visitLevels (maxDepth + 1) [] [name] with
      | error cause =>
          rw [finished] at listing
          cases listing
      | ok listed =>
          rw [finished] at listing
          cases listing
          obtain ⟨levels, visited⟩ := (Visited.start catalog name).run finished
          exact ⟨levels, listed, visited, nodup_visitLevels List.nodup_nil finished, rfl⟩

/-- A chain lists what can be reached and the root class. -/
theorem mem_ancestors_iff (notPrimitive : name.isPrimitive = false)
    (listing : catalog.ancestors name = .ok chain) :
    type ∈ chain ↔ type = TypeName.object ∨ ∃ steps, catalog.Climbs name steps type := by
  obtain ⟨levels, listed, visited, _, rfl⟩ := exists_visited_of_ancestors notPrimitive listing
  rw [mem_withRoot, visited.mem_iff]

/-- A chain lists what is reached in fewer steps first. -/
theorem pairwise_ancestors (notPrimitive : name.isPrimitive = false)
    (listing : catalog.ancestors name = .ok chain) :
    chain.Pairwise (catalog.NoFarther name) := by
  obtain ⟨levels, listed, visited, _, rfl⟩ := exists_visited_of_ancestors notPrimitive listing
  rw [withRoot]
  split
  · exact visited.sorted
  · next notListed =>
      refine List.pairwise_append.mpr ⟨visited.sorted, List.pairwise_singleton _ _, ?_⟩
      intro near _ root isRoot steps climbs
      rw [List.mem_singleton.mp isRoot] at climbs
      exact absurd (visited.mem_of_climbs climbs) (by simpa using notListed)

theorem self_mem_ancestors (notPrimitive : name.isPrimitive = false)
    (listing : catalog.ancestors name = .ok chain) : name ∈ chain :=
  (mem_ancestors_iff notPrimitive listing).mpr (.inr ⟨0, .here⟩)

theorem object_mem_ancestors (notPrimitive : name.isPrimitive = false)
    (listing : catalog.ancestors name = .ok chain) : TypeName.object ∈ chain :=
  (mem_ancestors_iff notPrimitive listing).mpr (.inl rfl)

/-- A chain begins with the type itself, which alone takes no steps. -/
theorem exists_eq_cons_of_ancestors (notPrimitive : name.isPrimitive = false)
    (listing : catalog.ancestors name = .ok chain) : ∃ rest, chain = name :: rest := by
  have self := self_mem_ancestors notPrimitive listing
  have sorted := pairwise_ancestors notPrimitive listing
  cases chain with
  | nil => cases self
  | cons first rest =>
      rcases List.mem_cons.mp self with rfl | later
      · exact ⟨rest, rfl⟩
      · obtain ⟨steps, none, climbs⟩ := (List.pairwise_cons.mp sorted).1 name later 0 .here
        rw [Nat.le_zero.mp none] at climbs
        cases climbs
        exact ⟨rest, rfl⟩

end Callsite.Catalog
