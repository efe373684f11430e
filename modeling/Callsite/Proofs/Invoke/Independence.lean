import Callsite.Proofs.Invoke.BufferRun
import Callsite.Proofs.Invoke.Evidence
import Callsite.Proofs.Machine.Locality

/-!
# Independent call sites

Call sites whose nodes are on different heaps do not see each other.  Each one comes to what it
comes to when it is executed alone, and leaves its heap as it leaves it then, whichever sites
are executed before it and whatever chains of supertypes these have left in the registry.
So the order in which the sites are executed cannot be told from the results.
-/

namespace Callsite

variable {σ : Type}

/-- A call site with the node that it is executed against. -/
abbrev Site := InvokeOp × Node

namespace Site

variable (machine : Machine σ) (before : Analysis σ) (site : Site)

/-- The heap of a site. -/
def heap : HeapId := site.2.activation.heap

/-- What a site comes to when it is executed before any other. -/
def alone : Invocation × Node := ((site.1.execute machine site.2).run before).1

/-- What is left of the heap of a site that is executed before any other. -/
def heapAlone : Heap := ((site.1.execute machine site.2).run before).2.heaps.get site.heap

end Site

namespace InvokeOp

variable {machine : Machine σ} {sites reordered : List Site} {before : Analysis σ}

theorem run_executeAll_cons (site : Site) (rest : List Site) (before : Analysis σ) :
    let next := ((site.1.execute machine site.2).run before).2
    (executeAll machine (site :: rest)).run before =
      (site.alone machine before :: ((executeAll machine rest).run next).1,
        ((executeAll machine rest).run next).2) := rfl

/-- A site that agrees on its heap comes to the same. -/
theorem alone_eq_of_agreeOn (keeps : machine.KeepsToHeaps) {site : Site}
    {first second : Analysis σ} (agree : first.AgreeOn site.heap second)
    (given_first : site.heap < first.heaps.next) (given_second : site.heap < second.heaps.next) :
    site.alone machine first = site.alone machine second ∧
      site.heapAlone machine first = site.heapAlone machine second :=
  (keeps.execute site.1 site.2).same first second agree given_first given_second

/-- What is left after sites were executed: on the heap of each one what is left of it when
the site is executed alone, and any other heap as it was. -/
structure LeftBy (machine : Machine σ) (sites : List Site) (before after : Analysis σ) :
    Prop where
  catalog : after.registry.catalog = before.registry.catalog
  executed : ∀ site ∈ sites, after.heaps.get site.heap = site.heapAlone machine before
  elsewhere : ∀ id < before.heaps.next, (∀ site ∈ sites, site.heap ≠ id) →
    after.heaps.get id = before.heaps.get id

/-- What the sites after the first one leave is what all of them leave, if the first one has
changed nothing that they look at. -/
theorem LeftBy.cons {site : Site} {rest : List Site} {next after : Analysis σ}
    (given : site.heap < before.heaps.next)
    (beside : before.UnchangedBeside site.heap next)
    (executed : next.heaps.get site.heap = site.heapAlone machine before)
    (others : ∀ other ∈ rest, site.heap ≠ other.heap)
    (unseen : ∀ other ∈ rest, other.heapAlone machine next = other.heapAlone machine before)
    (left : LeftBy machine rest next after) : LeftBy machine (site :: rest) before after where
  catalog := left.catalog.trans beside.catalog
  executed other member := by
    rcases List.mem_cons.mp member with rfl | later
    · rw [left.elsewhere other.heap (Nat.lt_of_lt_of_le given beside.next) fun third among =>
        (others third among).symm]
      exact executed
    · rw [left.executed other later]
      exact unseen other later
  elsewhere id idGiven untouched := by
    obtain ⟨here, there⟩ := List.forall_mem_cons.mp untouched
    rw [left.elsewhere id (Nat.lt_of_lt_of_le idGiven beside.next) there]
    exact beside.heap id idGiven here.symm

/-- Sites on different heaps come to what they come to alone. -/
theorem executeAll_eq_map_alone (keeps : machine.KeepsToHeaps)
    (apart : sites.Pairwise fun left right => left.heap ≠ right.heap)
    (given : ∀ site ∈ sites, site.heap < before.heaps.next) :
    ((executeAll machine sites).run before).1 = sites.map (Site.alone machine before) ∧
      LeftBy machine sites before ((executeAll machine sites).run before).2 := by
  induction sites generalizing before with
  | nil =>
      exact ⟨rfl, { catalog := rfl, executed := by simp, elsewhere := fun _ _ _ => rfl }⟩
  | cons site rest ih =>
      obtain ⟨others, apart⟩ := List.pairwise_cons.mp apart
      obtain ⟨siteGiven, restGiven⟩ := List.forall_mem_cons.mp given
      have beside := (keeps.execute site.1 site.2).beside before siteGiven
      have executed : ((site.1.execute machine site.2).run before).2.heaps.get site.heap =
          site.heapAlone machine before := rfl
      rw [run_executeAll_cons]
      generalize ((site.1.execute machine site.2).run before).2 = next at beside executed ⊢
      have stillGiven : ∀ other ∈ rest, other.heap < next.heaps.next := fun other member =>
        Nat.lt_of_lt_of_le (restGiven other member) beside.next
      obtain ⟨results, left⟩ := ih apart stillGiven
      -- The first site has changed nothing that another one looks at.
      have unseen : ∀ other ∈ rest,
          other.alone machine next = other.alone machine before ∧
            other.heapAlone machine next = other.heapAlone machine before := by
        intro other member
        have agree : next.AgreeOn other.heap before :=
          beside.agreeOn (restGiven other member) (others other member).symm
        exact alone_eq_of_agreeOn keeps agree (stillGiven other member)
          (restGiven other member)
      constructor
      · have same : rest.map (Site.alone machine next) = rest.map (Site.alone machine before) :=
          List.map_congr_left fun other member => (unseen other member).1
        simp only [results, same, List.map_cons]
      · exact left.cons siteGiven beside executed others fun other member =>
          (unseen other member).2

/-- In whichever order call sites on different heaps are executed, each one comes to the
invocation and the node that it comes to alone, and every heap is left the same. -/
theorem executeAll_perm (keeps : machine.KeepsToHeaps)
    (apart : sites.Pairwise fun left right => left.heap ≠ right.heap)
    (given : ∀ site ∈ sites, site.heap < before.heaps.next)
    (permuted : reordered.Perm sites) :
    let listed := (executeAll machine sites).run before
    let permuted := (executeAll machine reordered).run before
    listed.1 = sites.map (Site.alone machine before) ∧
      permuted.1 = reordered.map (Site.alone machine before) ∧
      LeftBy machine sites before listed.2 ∧
      ∀ id < before.heaps.next, permuted.2.heaps.get id = listed.2.heaps.get id := by
  intro listed reran
  obtain ⟨results, left⟩ := executeAll_eq_map_alone keeps apart given
  have reorderedApart : reordered.Pairwise fun left right => left.heap ≠ right.heap :=
    (permuted.pairwise_iff fun different => different.symm).mpr apart
  have reorderedGiven : ∀ site ∈ reordered, site.heap < before.heaps.next :=
    fun site member => given site (permuted.mem_iff.mp member)
  obtain ⟨reorderedResults, reorderedLeft⟩ :=
    executeAll_eq_map_alone keeps reorderedApart reorderedGiven
  refine ⟨results, reorderedResults, left, ?_⟩
  intro id idGiven
  by_cases executed : ∃ site ∈ sites, site.heap = id
  · obtain ⟨site, member, rfl⟩ := executed
    exact (reorderedLeft.executed site (permuted.mem_iff.mpr member)).trans
      (left.executed site member).symm
  · have untouched : ∀ site ∈ sites, site.heap ≠ id := fun site member same =>
      executed ⟨site, member, same⟩
    have reorderedUntouched : ∀ site ∈ reordered, site.heap ≠ id := fun site member =>
      untouched site (permuted.mem_iff.mp member)
    exact (reorderedLeft.elsewhere id idGiven reorderedUntouched).trans
      (left.elsewhere id idGiven untouched).symm

end InvokeOp

/-- A body that consists of one call keeps to the heap that it starts on. -/
theorem Explorer.keepsToHeaps_calling (op : InvokeOp) :
    (Explorer.calling op : Explorer σ).body.KeepsToHeaps := by
  intro execute keeps method callee
  let start : Node := { address := op.address, activation := callee }
  exact Interpreter.keepsTo_seen <| (keeps op start).bind fun (_, node) =>
    AnalysisM.KeepsTo.pure callee.heap (Except.ok (some (Graph.single method node)))

/-- A node that appends a string to a buffer, both on the heap of a number. -/
def appendingNode (heap : HeapId) : Node :=
  { BufferRun.waitingNode with
    activation := { BufferRun.waitingNode.activation with heap := heap } }

/-- Two calls that append, each on a heap of its own, and one that enters a body on a third
heap. -/
def appendsAndSpin : List Site :=
  [(BufferRun.appending, appendingNode 0), (BufferRun.appending, appendingNode 1),
    (spin, { spinCall.node with activation := { spinCall.node.activation with heap := 2 } })]

/-- A state with a buffer and a string on each of the first two heaps, and an object on the
third one. -/
def buffersBeside : Analysis Unit where
  heaps :=
    (((HeapStore.empty.add
      { slots := #[.builder "a", .string "b"], capacity := 4 }).2.add
      { slots := #[.builder "c", .string "d"], capacity := 4 }).2.add
      { slots := #[.object "Lapp/Loop;"], capacity := 4 }).2
  own := ()

/-- The calls may be executed the other way round. -/
theorem InvokeOp.executeAll_perm_appendsAndSpin :
    let beeping := ({} : Machine Unit).nest (Explorer.calling beep).body 21
    let before := buffersBeside
    (beeping.KeepsToHeaps ∧
        (appendsAndSpin.Pairwise fun left right => left.heap ≠ right.heap) ∧
        (∀ site ∈ appendsAndSpin, site.heap < before.heaps.next) ∧
        appendsAndSpin.reverse.Perm appendsAndSpin) ∧
      let listed := (executeAll beeping appendsAndSpin).run before
      let permuted := (executeAll beeping appendsAndSpin.reverse).run before
      (listed.1 = appendsAndSpin.map (Site.alone beeping before) ∧
        permuted.1 = appendsAndSpin.reverse.map (Site.alone beeping before) ∧
        LeftBy beeping appendsAndSpin before listed.2 ∧
        ∀ id < before.heaps.next, permuted.2.heaps.get id = listed.2.heaps.get id) ∧
      listed.1.map (fun result => result.1.outcome) = [.completed, .completed, .completed] ∧
      (permuted.2.heaps.get 0).get 0 = .ok (.builder "ab") ∧
      (permuted.2.heaps.get 1).get 0 = .ok (.builder "cd") := by
  intro beeping before
  have keeps : beeping.KeepsToHeaps :=
    Machine.KeepsToHeaps.nest
      (Machine.keepsToHeaps_of_interpreter {} fun method callee =>
        Interpreter.keepsTo_seen (Interpreter.keepsTo_absent callee.heap method callee))
      (Explorer.keepsToHeaps_calling beep) 21
  have apart : appendsAndSpin.Pairwise fun left right => left.heap ≠ right.heap := by decide
  have given : ∀ site ∈ appendsAndSpin, site.heap < before.heaps.next := by decide
  have permuted := appendsAndSpin.reverse_perm
  exact ⟨⟨keeps, apart, given, permuted⟩, executeAll_perm keeps apart given permuted,
    by decide +kernel, by decide +kernel, by decide +kernel⟩

end Callsite
