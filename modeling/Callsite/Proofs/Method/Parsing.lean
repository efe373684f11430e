import Callsite.Proofs.Catalog.Ancestors

/-!
# Methods that signatures name

A method is what its signature says, and it may be given a body.  So the descriptor of a
method tells the types between its parentheses, whichever class declares the method, and
the class of a method is never a primitive type.
-/

namespace Callsite

namespace Method

/-- The methods that can be built: what a signature says, and such a method with a body that
asks for a number of registers that 16 bits can hold. -/
inductive Parsed : Method → Prop where
  | bodiless {signature : String} {flags : AccessFlags} {method : Method} :
      parse signature flags = .ok method → Parsed method
  | withBody {method : Method} {registers : Nat} :
      Parsed method → registers < UInt16.size → Parsed (method.withBody registers)

/-- The types between the parentheses of a descriptor. -/
def declaredBy? (descriptor : String) : Option (List TypeName) := do
  let (_, afterName) ← Text.cut? ['('] descriptor.toList
  let (parameters, _) ← Text.cut? [')'] afterName
  Signature.parameters? parameters

/-- What is read off a signature. -/
theorem of_parse {signature : String} {flags : AccessFlags} {method : Method}
    (parsed : parse signature flags = .ok method) :
    method.className.isReference = true ∧
      declaredBy? method.descriptor = some method.declaredTypes ∧ method.body = none := by
  rw [parse] at parsed
  split at parsed
  · cases parsed
  next className descriptor _ =>
  split at parsed
  · cases parsed
  next name afterName named =>
  split at parsed
  · cases parsed
  next parameters returnType closed =>
  split at parsed
  · cases parsed
  next wellFormed =>
  split at parsed
  · cases parsed
  next declaredTypes read =>
  cases parsed
  refine ⟨?_, ?_, rfl⟩
  · simpa using (not_or.mp wellFormed).1
  · simp [declaredBy?, named, closed, read]

/-- A method carries the signature that it was parsed from. -/
theorem signature_of_parse {signature : String} {flags : AccessFlags} {method : Method}
    (parsed : parse signature flags = .ok method) : method.signature = signature := by
  rw [parse] at parsed
  split at parsed
  · cases parsed
  split at parsed
  · cases parsed
  split at parsed
  · cases parsed
  split at parsed
  · cases parsed
  split at parsed
  · cases parsed
  · cases parsed
    rfl

namespace Parsed

variable {method left right : Method}

theorem isReference_className (parsed : method.Parsed) :
    method.className.isReference = true := by
  induction parsed with
  | bodiless parse => exact (of_parse parse).1
  | withBody _ _ ih => exact ih

theorem declaredBy?_descriptor (parsed : method.Parsed) :
    declaredBy? method.descriptor = some method.declaredTypes := by
  induction parsed with
  | bodiless parse => exact (of_parse parse).2.1
  | withBody _ _ ih => exact ih

theorem body_lt (parsed : method.Parsed) {registers : Nat}
    (body : method.body = some registers) : registers < UInt16.size := by
  cases parsed with
  | bodiless parse =>
      rw [(of_parse parse).2.2] at body
      cases body
  | withBody _ small =>
      cases body
      exact small

/-- The receiver of a method takes one register. -/
theorem registerSize_className (parsed : method.Parsed) :
    method.className.registerSize = 1 := by
  have reference := parsed.isReference_className
  cases wide : method.className.isWide with
  | false => exact TypeName.registerSize_of_not_isWide wide
  | true =>
      rcases Catalog.isWide_iff.mp wide with same | same <;>
        rw [same] at reference <;> cases reference

/-- Methods of one descriptor have the same types between their parentheses. -/
theorem declaredTypes_eq (leftParsed : left.Parsed) (rightParsed : right.Parsed)
    (same : left.descriptor = right.descriptor) :
    left.declaredTypes = right.declaredTypes := by
  have read := leftParsed.declaredBy?_descriptor
  rw [same, rightParsed.declaredBy?_descriptor] at read
  exact (Option.some.inj read).symm

/-- Methods of one descriptor have equally wide parameters, if both have a receiver or
neither has. -/
theorem map_registerSize_parameterTypes (leftParsed : left.Parsed)
    (rightParsed : right.Parsed) (same : left.descriptor = right.descriptor)
    (alike : left.isStatic = right.isStatic) :
    left.parameterTypes.map TypeName.registerSize =
      right.parameterTypes.map TypeName.registerSize := by
  rw [parameterTypes, parameterTypes, alike, leftParsed.declaredTypes_eq rightParsed same]
  split
  · rfl
  · rw [List.map_cons, List.map_cons, leftParsed.registerSize_className,
      rightParsed.registerSize_className]

end Parsed

end Method

/-- Every method that a registered class declares was built as methods are. -/
def Catalog.Parsed (catalog : Catalog) : Prop :=
  ∀ name definition, catalog.find? name = some definition →
    ∀ method ∈ definition.methods, method.Parsed

end Callsite
