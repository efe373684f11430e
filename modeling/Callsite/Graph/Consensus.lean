import Callsite.Analysis
import Callsite.Graph

/-!
# Consensus of paths

What a caller may see in a register after a method returns is what the ends of
all paths agree on.  If they hold different things, only a type that covers them
all is left; if none of them holds anything, only the declared type is.
-/

namespace Callsite

/-- What the ends of all paths say about a register. -/
inductive Consensus where
  /-- No end holds anything; the register's declared type is all there is. -/
  | unwritten (declared : TypeName)
  /-- All ends that hold something hold this. -/
  | agreed (item : TypedValue)
  /-- The given number of ends hold different things, all covered by a type. -/
  | widened (paths : Nat) (type : TypeName)
  deriving DecidableEq

namespace Consensus

/-- What may be assumed of the register. -/
def item : Consensus → TypedValue
  | .unwritten declared => TypedValue.unknown declared
  | .agreed item => item
  | .widened _ type => TypedValue.unknown type

end Consensus

namespace Graph

variable (graph : Graph)

/-- What the ends of the paths that return hold in a register, where they hold
anything. -/
def observed (register : Register) : List TypedValue :=
  graph.terminating.filterMap fun node => node.frame.get? register

/-- The return type, or the root class if there is none. -/
def returnTypeOrObject : TypeName :=
  if graph.method.returnsVoid then TypeName.object else graph.method.returnType

/-- The narrowest type that covers two others. -/
def cover (catalog : Catalog) (left right : TypeName) : TypeName :=
  if left = right then left
  else if left.isIntLike ∧ right.isIntLike then TypeName.int
  else if left.isReference ∧ right.isReference then catalog.commonAncestor left right
  else graph.returnTypeOrObject

/-- The type that a register has when nothing is known of the paths. -/
def declaredType (register : Register) : TypeName :=
  match register with
  | .returned => graph.method.returnType
  | .result => graph.method.returnType
  | .index number =>
      let start := graph.method.registerCount - graph.method.parameterSize
      (graph.method.typeAt? start number).getD TypeName.object

/-- What the ends of all paths that return say about a register. -/
def consensus (catalog : Catalog) (register : Register) : Consensus :=
  match graph.observed register with
  | [] => .unwritten (graph.declaredType register)
  | first :: rest =>
      if rest.all (· == first) then
        .agreed first
      else
        .widened (rest.length + 1)
          (rest.foldl (fun type item => graph.cover catalog type item.type) first.type)

/-- What may be assumed of a register after the method returns. -/
def consensusItem (catalog : Catalog) (register : Register) : TypedValue :=
  (graph.consensus catalog register).item

/-- What may be assumed of a register after the method returns, with a remark if
the paths disagree. -/
def settle {σ : Type} (register : Register) : AnalysisM σ TypedValue := do
  let consensus := graph.consensus (← AnalysisM.catalog) register
  if let .widened paths type := consensus then
    AnalysisM.remark (.noConsensus register graph.method.signature paths type)
  return consensus.item

@[simp] theorem consensus_of_observed_nil {catalog : Catalog} {register : Register}
    (nothing : graph.observed register = []) :
    graph.consensus catalog register = .unwritten (graph.declaredType register) := by
  simp [consensus, nothing]

/-- Paths agree on an item if all that hold anything hold that item. -/
theorem consensus_eq_agreed_iff {catalog : Catalog} {register : Register}
    {item : TypedValue} :
    graph.consensus catalog register = .agreed item ↔
      graph.observed register ≠ [] ∧
        ∀ seen ∈ graph.observed register, seen = item := by
  rw [consensus]
  cases observed : graph.observed register with
  | nil => simp
  | cons first rest =>
      by_cases same : ∀ seen ∈ rest, seen = first
      · have all : rest.all (· == first) = true := by simpa using same
        simp only [all, if_true, Consensus.agreed.injEq, List.forall_mem_cons]
        constructor
        · rintro rfl
          exact ⟨by simp, rfl, same⟩
        · intro ⟨_, here, _⟩
          exact here
      · have notAll : rest.all (· == first) = false := by simpa using same
        simp only [notAll, List.forall_mem_cons]
        constructor
        · intro impossible
          cases impossible
        · intro ⟨_, here, others⟩
          exact absurd (here ▸ others) same

end Graph

end Callsite
