import Callsite.Catalog

/-!
# The class registry

A registry answers questions about a catalog that may grow, and remembers the
supertypes of every type it was asked about until the next class is registered.
Everything it remembers is what the catalog says, so that remembering cannot
change an answer: the first part of each query is the catalog's own answer.
-/

namespace Callsite

/-- A catalog with the platform classes permitted to be executed and the chains of
supertypes remembered so far. -/
structure Registry where
  catalog : Catalog := {}
  permitted : List TypeName := []
  remembered : List (TypeName × List TypeName) := []
  ancestors_of_remembered :
    ∀ name chain, remembered.lookup name = some chain →
      catalog.ancestors name = .ok chain := by simp

namespace Registry

/-- A registry without classes. -/
def empty : Registry := {}

instance : Inhabited Registry := ⟨empty⟩

variable (registry : Registry)

/-- Add a class and forget all chains, since they may pass through it. -/
def register (definition : ClassDef) : Registry :=
  { catalog := registry.catalog.register definition
    permitted := registry.permitted }

/-- Permit a platform class to be executed. -/
def permit (name : TypeName) : Registry :=
  { registry with permitted := registry.permitted ++ [name] }

/-- Whether the class of a signature is permitted. -/
def isPermitted (signature : String) : Bool :=
  registry.permitted.contains (Signature.classPart signature).elementBase

/-- Whether the class of a signature comes with the platform and is not
permitted. -/
def isForbidden (signature : String) : Bool :=
  registry.catalog.isFramework signature && !registry.isPermitted signature

/-- Remember the supertypes of a type. -/
def remember (name : TypeName) (chain : List TypeName)
    (correct : registry.catalog.ancestors name = .ok chain) : Registry :=
  { registry with
    remembered := (name, chain) :: registry.remembered
    ancestors_of_remembered := by
      intro other otherChain found
      rw [List.lookup_cons] at found
      split at found
      · next same =>
          cases found
          rw [eq_of_beq same]
          exact correct
      · exact registry.ancestors_of_remembered other otherChain found }

/-- The supertypes of a type, remembered or computed. -/
def ancestors (name : TypeName) : Except Error (List TypeName) × Registry :=
  match registry.remembered.lookup name with
  | some chain => (.ok chain, registry)
  | none =>
      match computed : registry.catalog.ancestors name with
      | .ok chain => (.ok chain, registry.remember name chain computed)
      | .error error => (.error error, registry)

/-- Whether a value of one type can be used where another is expected. -/
def isInstanceOf (actual declared : TypeName) : Bool × Registry :=
  match Catalog.assignability actual declared with
  | .decided holds => (holds, registry)
  | .inheritance actual declared =>
      let (chain, registry) := registry.ancestors actual
      (Catalog.chainContains chain declared, registry)

/-- The nearest type that values of both types can be used as. -/
def commonAncestor (left right : TypeName) : TypeName × Registry :=
  if left = right then
    (left, registry)
  else
    let (leftChain, registry) := registry.ancestors left
    let (rightChain, registry) := registry.ancestors right
    (Catalog.firstShared leftChain rightChain, registry)

@[simp] theorem catalog_remember (name : TypeName) (chain : List TypeName)
    (correct : registry.catalog.ancestors name = .ok chain) :
    (registry.remember name chain correct).catalog = registry.catalog := rfl

/-- Remembering does not change which supertypes a type has. -/
@[simp] theorem fst_ancestors (name : TypeName) :
    (registry.ancestors name).1 = registry.catalog.ancestors name := by
  rw [ancestors]
  split
  · next chain found => exact (registry.ancestors_of_remembered name chain found).symm
  · split <;> simp [*]

@[simp] theorem catalog_ancestors (name : TypeName) :
    (registry.ancestors name).2.catalog = registry.catalog := by
  rw [ancestors]
  split
  · rfl
  · split <;> rfl

@[simp] theorem permitted_ancestors (name : TypeName) :
    (registry.ancestors name).2.permitted = registry.permitted := by
  rw [ancestors]
  split
  · rfl
  · split <;> rfl

@[simp] theorem fst_isInstanceOf (actual declared : TypeName) :
    (registry.isInstanceOf actual declared).1 =
      registry.catalog.isInstanceOf actual declared := by
  rw [isInstanceOf, Catalog.isInstanceOf]
  cases Catalog.assignability actual declared <;> simp

@[simp] theorem catalog_isInstanceOf (actual declared : TypeName) :
    (registry.isInstanceOf actual declared).2.catalog = registry.catalog := by
  rw [isInstanceOf]
  split <;> simp

@[simp] theorem fst_commonAncestor (left right : TypeName) :
    (registry.commonAncestor left right).1 =
      registry.catalog.commonAncestor left right := by
  rw [commonAncestor, Catalog.commonAncestor]
  split <;> simp

@[simp] theorem catalog_commonAncestor (left right : TypeName) :
    (registry.commonAncestor left right).2.catalog = registry.catalog := by
  rw [commonAncestor]
  split <;> simp

end Registry

end Callsite
