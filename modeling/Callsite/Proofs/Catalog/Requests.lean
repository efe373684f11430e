import Callsite.Analysis

/-!
# Requests to a registry

All calls of an analysis share a registry, which is told about classes and asked about
their hierarchy in any order.  Asking makes it remember chains of supertypes, and
registering a class makes it forget them, since the class may change any chain.  None of
this shows: every answer is the one that a registry gives that was never asked before and
was told about the same classes.
-/

namespace Callsite

variable {σ : Type}

/-- Let the registry take a step. -/
def AnalysisM.onRegistry {α : Type} (step : Registry → α × Registry) : AnalysisM σ α :=
  modifyGet fun analysis =>
    let (value, registry) := step analysis.registry
    (value, { analysis with registry })

@[simp] theorem AnalysisM.run_onRegistry {α : Type} (step : Registry → α × Registry)
    (analysis : Analysis σ) :
    (onRegistry step).run analysis =
      ((step analysis.registry).1,
        { analysis with registry := (step analysis.registry).2 }) := rfl

/-- What a registry can be told or asked. -/
inductive Request where
  | register (definition : ClassDef)
  | permit (name : TypeName)
  | ancestors (name : TypeName)
  | isInstanceOf (actual declared : TypeName)
  | commonAncestor (left right : TypeName)
  | reconcile (item : TypedValue) (declared : TypeName)

/-- What comes back.  A registry that is told something says nothing. -/
inductive Answer where
  | nothing
  | chain (chain : Except Error (List TypeName))
  | verdict (holds : Bool)
  | type (type : TypeName)

namespace Request

/-- Pass a request to the registry of an analysis. -/
def perform : Request → AnalysisM σ Answer
  | .register definition => do
      AnalysisM.onRegistry fun registry => ((), registry.register definition)
      return .nothing
  | .permit name => do
      AnalysisM.onRegistry fun registry => ((), registry.permit name)
      return .nothing
  | .ancestors name => do
      return .chain (← AnalysisM.ancestors name)
  | .isInstanceOf actual declared => do
      return .verdict
        (← AnalysisM.onRegistry fun registry => registry.isInstanceOf actual declared)
  | .commonAncestor left right => do
      return .type
        (← AnalysisM.onRegistry fun registry => registry.commonAncestor left right)
  | .reconcile item declared => do
      return .type (← AnalysisM.reconcile item declared)

/-- Pass requests to the registry of an analysis, one after another. -/
def performAll (requests : List Request) : AnalysisM σ (List Answer) :=
  requests.mapM perform

/-- The class that a request registers. -/
def registered? : Request → Option ClassDef
  | .register definition => some definition
  | _ => none

/-- Whether a request registers a class. -/
def isRegistration (request : Request) : Bool := request.registered?.isSome

/-- The last class that requests register under a name. -/
def lastRegistered? (requests : List Request) (name : TypeName) : Option ClassDef :=
  (requests.filterMap registered?).reverse.find? fun definition => definition.name == name

/-! ## What answers depend on -/

/-- The answer to a request, by what a catalog tells. -/
def answerIn (catalog : Catalog) : Request → Answer
  | .register _ => .nothing
  | .permit _ => .nothing
  | .ancestors name => .chain (catalog.ancestors name)
  | .isInstanceOf actual declared => .verdict (catalog.isInstanceOf actual declared)
  | .commonAncestor left right => .type (catalog.commonAncestor left right)
  | .reconcile item declared => .type (catalog.reconcile item declared)

/-- The catalog after a request. -/
def update (catalog : Catalog) (request : Request) : Catalog :=
  match request.registered? with
  | some definition => catalog.register definition
  | none => catalog

/-- Whatever the registry remembers, it answers what its catalog tells. -/
theorem fst_run_perform (request : Request) (analysis : Analysis σ) :
    (request.perform.run analysis).1 = request.answerIn analysis.registry.catalog := by
  cases request with
  | register definition => rfl
  | permit name => rfl
  | ancestors name =>
      simp only [perform, AnalysisM.run_bind, AnalysisM.run_ancestors, AnalysisM.run_pure,
        answerIn]
  | isInstanceOf actual declared =>
      simp only [perform, AnalysisM.run_bind, AnalysisM.run_onRegistry, AnalysisM.run_pure,
        Registry.fst_isInstanceOf, answerIn]
  | commonAncestor left right =>
      simp only [perform, AnalysisM.run_bind, AnalysisM.run_onRegistry, AnalysisM.run_pure,
        Registry.fst_commonAncestor, answerIn]
  | reconcile item declared =>
      simp only [perform, AnalysisM.run_bind, AnalysisM.run_pure, AnalysisM.fst_run_reconcile,
        answerIn]

/-- Reconciling remembers chains and registers nothing. -/
theorem catalog_run_reconcile (item : TypedValue) (declared : TypeName)
    (analysis : Analysis σ) :
    ((AnalysisM.reconcile item declared).run analysis).2.registry.catalog =
      analysis.registry.catalog := by
  rw [AnalysisM.reconcile]
  split
  · rfl
  · simp only [AnalysisM.run_bind, AnalysisM.run_ancestors]
    split
    · exact analysis.registry.catalog_ancestors item.type.elementBase
    · exact analysis.registry.catalog_ancestors item.type.elementBase

/-- Only registering a class changes the catalog. -/
theorem catalog_run_perform (request : Request) (analysis : Analysis σ) :
    (request.perform.run analysis).2.registry.catalog =
      update analysis.registry.catalog request := by
  cases request with
  | register definition => rfl
  | permit name => rfl
  | ancestors name =>
      simp only [perform, AnalysisM.run_bind, AnalysisM.run_ancestors, AnalysisM.run_pure]
      exact analysis.registry.catalog_ancestors name
  | isInstanceOf actual declared => exact analysis.registry.catalog_isInstanceOf actual declared
  | commonAncestor left right => exact analysis.registry.catalog_commonAncestor left right
  | reconcile item declared => exact catalog_run_reconcile item declared analysis

/-! ## Sequences of requests -/

theorem catalog_run_performAll (requests : List Request) (analysis : Analysis σ) :
    ((performAll requests).run analysis).2.registry.catalog =
      requests.foldl update analysis.registry.catalog := by
  induction requests generalizing analysis with
  | nil => rfl
  | cons request rest ih =>
      rw [performAll, List.mapM_cons, AnalysisM.run_bind, AnalysisM.run_bind,
        AnalysisM.run_pure, List.foldl_cons, ← catalog_run_perform]
      exact ih (request.perform.run analysis).2

/-- Requests that register nothing may be left out. -/
theorem foldl_update_filter (requests : List Request) (catalog : Catalog) :
    (requests.filter isRegistration).foldl update catalog =
      requests.foldl update catalog := by
  induction requests generalizing catalog with
  | nil => rfl
  | cons request rest ih =>
      cases request with
      | register definition => exact ih (catalog.register definition)
      | permit name => exact ih catalog
      | ancestors name => exact ih catalog
      | isInstanceOf actual declared => exact ih catalog
      | commonAncestor left right => exact ih catalog
      | reconcile item declared => exact ih catalog

/-- The answer to a request comes after those to the earlier ones. -/
theorem getElem?_performAll (earlier later : List Request) (request : Request)
    (analysis : Analysis σ) :
    ((performAll (earlier ++ request :: later)).run analysis).1[earlier.length]? =
      some (request.perform.run ((performAll earlier).run analysis).2).1 := by
  induction earlier generalizing analysis with
  | nil =>
      rw [List.nil_append, performAll, List.mapM_cons]
      rfl
  | cons first rest ih =>
      rw [List.cons_append, performAll, performAll, List.mapM_cons, List.mapM_cons]
      exact ih (first.perform.run analysis).2

theorem find?_register (catalog : Catalog) (definition : ClassDef) (name : TypeName) :
    (catalog.register definition).find? name =
      ([definition].find? fun other => other.name == name).or (catalog.find? name) := by
  by_cases same : definition.name = name
  · subst same
    simp
  · rw [catalog.find?_register_of_ne (Ne.symm same)]
    simp [same]

/-- Of several classes of one name the one registered last is found. -/
theorem find?_foldl_update (requests : List Request) (catalog : Catalog) (name : TypeName) :
    (requests.foldl update catalog).find? name =
      (lastRegistered? requests name).or (catalog.find? name) := by
  induction requests generalizing catalog with
  | nil => rfl
  | cons request rest ih =>
      rw [List.foldl_cons, ih]
      cases request with
      | register definition =>
          have last : lastRegistered? (.register definition :: rest) name =
              (lastRegistered? rest name).or
                ([definition].find? fun other => other.name == name) := by
            have listed : (Request.register definition :: rest).filterMap registered? =
                definition :: rest.filterMap registered? := rfl
            simp only [lastRegistered?, listed, List.reverse_cons, List.find?_append]
          rw [last, Option.or_assoc, ← find?_register]
          rfl
      | permit name => rfl
      | ancestors name => rfl
      | isInstanceOf actual declared => rfl
      | commonAncestor left right => rfl
      | reconcile item declared => rfl

/-- In any sequence of requests to a new registry, every answer is the one that another
new registry gives which has only been told about the classes registered so far, the last
one of each name. -/
theorem answer_eq_answer_of_registrations (heaps : HeapStore) (remarks : Array Remark)
    (own : σ) (earlier later : List Request) (request : Request) :
    let new : Analysis σ := { heaps, remarks, own }
    let told := ((performAll (earlier.filter isRegistration)).run new).2
    ((performAll (earlier ++ request :: later)).run new).1[earlier.length]? =
        some (request.perform.run told).1 ∧
      ∀ name, told.registry.catalog.find? name = lastRegistered? earlier name := by
  intro new told
  have sameCatalog : told.registry.catalog =
      ((performAll earlier).run new).2.registry.catalog := by
    simp only [told, catalog_run_performAll, foldl_update_filter]
  constructor
  · rw [getElem?_performAll, fst_run_perform, fst_run_perform, sameCatalog]
  · intro name
    rw [sameCatalog, catalog_run_performAll, find?_foldl_update]
    exact Option.or_none

end Request

end Callsite
