import Callsite.Invoke.Execute

/-!
# Plans of calls

What is settled before a call is executed depends on the registry, the heap and
the caller's frame.  Settling it makes remarks and remembers supertypes, and
changes nothing else in the state of the analysis.
-/

namespace Callsite

variable {σ : Type}

namespace Analysis

/-- The states differ at most in the remarks and in the supertypes remembered. -/
structure Alike (before after : Analysis σ) : Prop where
  catalog : after.registry.catalog = before.registry.catalog
  permitted : after.registry.permitted = before.registry.permitted
  heaps : after.heaps = before.heaps
  own : after.own = before.own

namespace Alike

theorem refl (analysis : Analysis σ) : analysis.Alike analysis :=
  ⟨rfl, rfl, rfl, rfl⟩

theorem symm {before after : Analysis σ} (alike : before.Alike after) :
    after.Alike before where
  catalog := alike.catalog.symm
  permitted := alike.permitted.symm
  heaps := alike.heaps.symm
  own := alike.own.symm

theorem trans {first second third : Analysis σ} (left : first.Alike second)
    (right : second.Alike third) : first.Alike third where
  catalog := right.catalog.trans left.catalog
  permitted := right.permitted.trans left.permitted
  heaps := right.heaps.trans left.heaps
  own := right.own.trans left.own

theorem run_remark (analysis : Analysis σ) (made : Remark) :
    analysis.Alike ((AnalysisM.remark made).run analysis).2 :=
  ⟨rfl, rfl, rfl, rfl⟩

theorem run_remarkAll (analysis : Analysis σ) (made : List Remark) :
    analysis.Alike ((AnalysisM.remarkAll made).run analysis).2 :=
  ⟨rfl, rfl, rfl, rfl⟩

theorem run_ancestors (analysis : Analysis σ) (name : TypeName) :
    analysis.Alike ((AnalysisM.ancestors name).run analysis).2 := by
  rw [AnalysisM.run_ancestors]
  exact ⟨analysis.registry.catalog_ancestors name,
    analysis.registry.permitted_ancestors name, rfl, rfl⟩

theorem run_reconcile (analysis : Analysis σ) (item : TypedValue) (declared : TypeName) :
    analysis.Alike ((AnalysisM.reconcile item declared).run analysis).2 := by
  rw [AnalysisM.reconcile]
  split
  · exact refl analysis
  · have asked := run_ancestors analysis item.type.elementBase
    simp only [AnalysisM.run_bind]
    split
    · exact asked.trans (run_remark _ _)
    · exact asked

/-- Steps that keep a state alike do so in any number. -/
theorem run_mapM {α β : Type} {step : α → AnalysisM σ β}
    (each : ∀ item (analysis : Analysis σ), analysis.Alike ((step item).run analysis).2)
    (items : List α) (analysis : Analysis σ) :
    analysis.Alike ((items.mapM step).run analysis).2 := by
  induction items generalizing analysis with
  | nil => exact refl analysis
  | cons item rest ih =>
      rw [List.mapM_cons, AnalysisM.run_bind, AnalysisM.run_bind]
      exact (each item analysis).trans (ih _)

end Alike

end Analysis

namespace Arguments

/-- The type that each argument is passed as, by what the catalog tells. -/
def types (catalog : Catalog) (caller : Frame) (registers : List Nat)
    (declared : List TypeName) : List TypeName :=
  (declared.zip registers).map fun (type, number) =>
    catalog.reconcile (caller.peek (.index number)) type

theorem alike_run_reconcile (caller : Frame) (registers : List Nat)
    (declared : List TypeName) (analysis : Analysis σ) :
    analysis.Alike ((reconcile caller registers declared).run analysis).2 :=
  Analysis.Alike.run_mapM
    (fun (type, number) analysis =>
      Analysis.Alike.run_reconcile analysis (caller.peek (.index number)) type)
    (declared.zip registers) analysis

/-- Remembering supertypes on the way does not change the types of the arguments
that follow. -/
theorem fst_run_reconcile (caller : Frame) (registers : List Nat)
    (declared : List TypeName) (analysis : Analysis σ) :
    ((reconcile caller registers declared).run analysis).1 =
      types analysis.registry.catalog caller registers declared := by
  rw [reconcile, types]
  induction declared.zip registers generalizing analysis with
  | nil => rfl
  | cons argument rest ih =>
      obtain ⟨type, number⟩ := argument
      have asked := Analysis.Alike.run_reconcile analysis (caller.peek (.index number)) type
      rw [List.mapM_cons, AnalysisM.run_bind, AnalysisM.run_bind, AnalysisM.run_pure,
        AnalysisM.fst_run_reconcile, ih, asked.catalog]
      rfl

end Arguments

/-- The strategy for a target depends on the registered classes and the
permissions only. -/
theorem Strategy.classify_congr (machine : Machine σ) {before after : Registry}
    (catalog : after.catalog = before.catalog)
    (permitted : after.permitted = before.permitted) (target : Method) :
    classify machine after target = classify machine before target := by
  have sameVerdict (signature : String) :
      after.isForbidden signature = before.isForbidden signature := by
    simp only [Registry.isForbidden, Registry.isPermitted, catalog, permitted]
  simp only [classify, sameVerdict]

/-- Only the constructor of the root class completes objects. -/
theorem Strategy.classify_eq_constructObject {machine : Machine σ} {registry : Registry}
    {target : Method} (chosen : classify machine registry target = .constructObject) :
    target.signature = Signature.objectInit := by
  simp only [classify] at chosen
  split at chosen
  · next root => exact root
  · split at chosen
    · cases chosen
    · split at chosen
      · cases chosen
      · split at chosen <;> cases chosen

namespace InvokeOp

variable (machine : Machine σ) (op : InvokeOp)

/-- What is settled before a call, by what the registry and the heap tell. -/
def planIn (registry : Registry) (heap : Heap) (caller : Frame) : Plan :=
  if op.method.signature = Signature.objectInit then
    { strategy := .constructObject, target := op.method, types := [], frame := caller }
  else
    let target := op.target registry.catalog heap caller
    { strategy := Strategy.classify machine registry target
      target
      types := Arguments.types registry.catalog caller op.registers
        op.method.parameterTypes
      frame := caller.recordReads op.registers }

/-- The types that the arguments in a caller's frame are passed as. -/
def argumentTypes (analysis : Analysis σ) (caller : Frame) : List TypeName :=
  Arguments.types analysis.registry.catalog caller op.registers op.method.parameterTypes

/-- The method that a call from a node runs. -/
def targetFor (analysis : Analysis σ) (node : Node) : Method :=
  op.target analysis.registry.catalog (analysis.heaps.get node.activation.heap) node.frame

/-- The plan that a call site has for a node in a state of the analysis. -/
def planFor (analysis : Analysis σ) (node : Node) : Plan :=
  op.planIn machine analysis.registry (analysis.heaps.get node.activation.heap) node.frame

theorem alike_run_plan (caller : Activation) (analysis : Analysis σ) :
    analysis.Alike ((op.plan machine caller).run analysis).2 := by
  rw [plan]
  split
  · exact .refl analysis
  · have typed := Arguments.alike_run_reconcile caller.frame op.registers
      op.method.parameterTypes analysis
    simp only [AnalysisM.run_bind]
    split
    · exact typed.trans (.run_remark _ _)
    · exact typed

theorem fst_run_plan (node : Node) (analysis : Analysis σ) :
    ((op.plan machine node.activation).run analysis).1 =
      op.planFor machine analysis node := by
  rw [plan, planFor, planIn]
  split
  · rfl
  · have typed := Arguments.alike_run_reconcile node.activation.frame op.registers
      op.method.parameterTypes analysis
    have settled := Arguments.fst_run_reconcile node.activation.frame op.registers
      op.method.parameterTypes analysis
    simp only [AnalysisM.run_bind, settled]
    split <;> simp only [AnalysisM.run_registry, AnalysisM.run_heap,
      AnalysisM.run_pure, typed.catalog, typed.heaps,
      Strategy.classify_congr machine typed.catalog typed.permitted] <;> rfl

variable {machine op}

/-- Planning reads the argument registers and writes none. -/
theorem get?_frame_planFor (analysis : Analysis σ) (node : Node) (register : Register) :
    (op.planFor machine analysis node).frame.get? register = node.frame.get? register := by
  rw [planFor, planIn]
  split
  · rfl
  · exact node.frame.get?_recordReads op.registers register

theorem assigned_frame_planFor (analysis : Analysis σ) (node : Node) :
    (op.planFor machine analysis node).frame.assigned = node.frame.assigned := by
  rw [planFor, planIn]
  split
  · rfl
  · exact node.frame.assigned_recordReads op.registers

/-- Nothing is read before the constructor of the root class. -/
theorem frame_planFor_of_objectInit {analysis : Analysis σ} {node : Node}
    (constructs : op.method.signature = Signature.objectInit) :
    (op.planFor machine analysis node).frame = node.frame := by
  simp [planFor, planIn, constructs]

theorem peek_frame_planFor (analysis : Analysis σ) (node : Node) (register : Register) :
    (op.planFor machine analysis node).frame.peek register = node.frame.peek register := by
  rw [Frame.peek, get?_frame_planFor]
  rfl

theorem argumentTypes_recordReads (op : InvokeOp) (before : Analysis σ) (caller : Frame) :
    op.argumentTypes before (caller.recordReads op.registers) =
      op.argumentTypes before caller := by
  simp only [argumentTypes, Arguments.types, Frame.peek, Frame.get?_recordReads]

/-- The constructor of the root class completes objects. -/
theorem strategy_planFor_of_objectInit {analysis : Analysis σ} {node : Node}
    (constructs : op.method.signature = Signature.objectInit) :
    (op.planFor machine analysis node).strategy = .constructObject := by
  simp [planFor, planIn, constructs]

/-- The plan for any other method. -/
theorem planFor_of_ordinary {analysis : Analysis σ} {node : Node}
    (ordinary : op.method.signature ≠ Signature.objectInit) :
    op.planFor machine analysis node =
      { strategy := Strategy.classify machine analysis.registry (op.targetFor analysis node)
        target := op.targetFor analysis node
        types := op.argumentTypes analysis node.frame
        frame := node.frame.recordReads op.registers } := by
  simp only [planFor, planIn, if_neg ordinary, targetFor, argumentTypes]

end InvokeOp

end Callsite
