import Callsite.Heap.Store
import Callsite.Registry
import Callsite.Remark

/-!
# The state of an analysis

What all calls of one analysis share: the known classes, the heaps, the remarks
made so far, and whatever state the collaborators keep for themselves.  The
collaborators' own state is a parameter, since nothing here reads or writes it.
What each step does to that state is said by the lemmas on `run`.
-/

namespace Callsite

/-- The shared state of an analysis, with the collaborators' state of type
`σ`. -/
structure Analysis (σ : Type) where
  registry : Registry := Registry.empty
  heaps : HeapStore := HeapStore.empty
  remarks : Array Remark := #[]
  own : σ

/-- A computation in an analysis. -/
abbrev AnalysisM (σ : Type) := StateM (Analysis σ)

namespace AnalysisM

variable {σ : Type}

/-- The registry. -/
def registry : AnalysisM σ Registry := do
  return (← get).registry

/-- The catalog of known classes. -/
def catalog : AnalysisM σ Catalog := do
  return (← get).registry.catalog

/-- Make a remark. -/
def remark (remark : Remark) : AnalysisM σ Unit :=
  modify fun analysis => { analysis with remarks := analysis.remarks.push remark }

/-- Make several remarks. -/
def remarkAll (remarks : List Remark) : AnalysisM σ Unit :=
  modify fun analysis =>
    { analysis with remarks := analysis.remarks ++ remarks.toArray }

/-- The heap of a number. -/
def heap (id : HeapId) : AnalysisM σ Heap := do
  return (← get).heaps.get id

/-- Replace the heap of a number. -/
def setHeap (id : HeapId) (heap : Heap) : AnalysisM σ Unit :=
  modify fun analysis => { analysis with heaps := analysis.heaps.set id heap }

/-- Put a heap under a new number. -/
def addHeap (heap : Heap) : AnalysisM σ HeapId :=
  modifyGet fun analysis =>
    let (id, heaps) := analysis.heaps.add heap
    (id, { analysis with heaps })

/-- Copy a heap under a new number. -/
def forkHeap (id : HeapId) : AnalysisM σ HeapId := do
  addHeap (← heap id)

/-- Let the collaborators' state take a step. -/
def lift {α : Type} (step : StateM σ α) : AnalysisM σ α :=
  modifyGet fun analysis =>
    let (value, own) := step.run analysis.own
    (value, { analysis with own })

/-- The supertypes of a type, remembered for the next time. -/
def ancestors (name : TypeName) : AnalysisM σ (Except Error (List TypeName)) :=
  modifyGet fun analysis =>
    let (chain, registry) := analysis.registry.ancestors name
    (chain, { analysis with registry })

/-- The type that an argument is passed as. -/
def reconcile (item : TypedValue) (declared : TypeName) : AnalysisM σ TypeName := do
  if item.hasPrimitiveBase then
    return declared
  let base := item.type.elementBase
  let chain ← ancestors base
  if let .error cause := chain then
    remark (.hierarchyUnavailable base declared cause)
  return Catalog.narrower chain item.type declared

/-- Steps one after another: the second starts where the first one ends. -/
theorem run_bind {α β : Type} (step : AnalysisM σ α) (next : α → AnalysisM σ β)
    (analysis : Analysis σ) :
    (step >>= next).run analysis =
      (next (step.run analysis).1).run (step.run analysis).2 := rfl

theorem run_pure {α : Type} (value : α) (analysis : Analysis σ) :
    (pure value : AnalysisM σ α).run analysis = (value, analysis) := rfl

@[simp] theorem run_registry (analysis : Analysis σ) :
    registry.run analysis = (analysis.registry, analysis) := rfl

@[simp] theorem run_catalog (analysis : Analysis σ) :
    catalog.run analysis = (analysis.registry.catalog, analysis) := rfl

@[simp] theorem run_remark (made : Remark) (analysis : Analysis σ) :
    (remark made).run analysis =
      ((), { analysis with remarks := analysis.remarks.push made }) := rfl

@[simp] theorem run_remarkAll (made : List Remark) (analysis : Analysis σ) :
    (remarkAll made).run analysis =
      ((), { analysis with remarks := analysis.remarks ++ made.toArray }) := rfl

@[simp] theorem run_heap (id : HeapId) (analysis : Analysis σ) :
    (heap id).run analysis = (analysis.heaps.get id, analysis) := rfl

@[simp] theorem run_setHeap (id : HeapId) (heap : Heap) (analysis : Analysis σ) :
    (setHeap id heap).run analysis =
      ((), { analysis with heaps := analysis.heaps.set id heap }) := rfl

@[simp] theorem run_lift {α : Type} (step : StateM σ α) (analysis : Analysis σ) :
    (lift step).run analysis =
      ((step.run analysis.own).1, { analysis with own := (step.run analysis.own).2 }) :=
  rfl

@[simp] theorem run_ancestors (name : TypeName) (analysis : Analysis σ) :
    (ancestors name).run analysis =
      (analysis.registry.catalog.ancestors name,
        { analysis with registry := (analysis.registry.ancestors name).2 }) := by
  rw [← analysis.registry.fst_ancestors name]
  rfl

/-- The type that an argument is passed as is the one that the catalog tells. -/
theorem fst_run_reconcile (item : TypedValue) (declared : TypeName)
    (analysis : Analysis σ) :
    ((reconcile item declared).run analysis).1 =
      analysis.registry.catalog.reconcile item declared := by
  unfold reconcile Catalog.reconcile
  split
  · rfl
  · simp only [run_bind, run_ancestors]
    split <;> rfl

end AnalysisM

end Callsite
