import Callsite.Proofs.Method.Parsing
import Callsite.Proofs.Signature.Descriptor

/-!
# Signatures written and read back

A signature is its class, an arrow, its name, the parameter types between parentheses and
the type of its result.  Reading accepts exactly the texts that are written so, and finds
the parts they were written from, wherever further arrows and parentheses stand in them.
The same cut at the arrow names the class and the descriptor by which a method is looked
up, so that a method table built by `declare` answers for the signatures of its methods.
-/

namespace Callsite

open Text (cut? cut?_eq_some_iff)

/-- What a signature is made of. -/
structure Signature.Parts where
  className : TypeName
  name : String
  declaredTypes : List TypeName
  returnType : TypeName

namespace Signature.Parts

variable (parts : Parts)

/-- The descriptor that is written from the parts. -/
def descriptor : String :=
  parts.name ++ "(" ++ String.join parts.declaredTypes ++ ")" ++ parts.returnType

/-- The signature that is written from the parts. -/
def text : String := parts.className ++ "->" ++ parts.descriptor

/-- The parts can be told from each other once they are written. -/
structure Legible : Prop where
  /-- The class starts with the letter of a class or with a bracket. -/
  isReference : parts.className.isReference = true
  arrow : ¬ Signature.arrow <:+: parts.className.toList
  opening : '(' ∉ parts.name.toList
  descriptors : ∀ type ∈ parts.declaredTypes, IsDescriptor type.toList
  closing : ∀ type ∈ parts.declaredTypes, ')' ∉ type.toList
  returnType : parts.returnType ≠ ""

/-- The method without a body that has the parts. -/
def method (flags : AccessFlags) : Method where
  signature := parts.text
  className := parts.className
  name := parts.name
  descriptor := parts.descriptor
  declaredTypes := parts.declaredTypes
  returnType := parts.returnType
  flags := Method.flagsFor parts.name flags

theorem toList_text :
    parts.text.toList = parts.className.toList ++ Signature.arrow ++ parts.descriptor.toList := by
  rw [text, String.toList_append, String.toList_append]
  rfl

theorem toList_descriptor :
    parts.descriptor.toList = parts.name.toList ++ '(' ::
      ((String.join parts.declaredTypes).toList ++ ')' :: parts.returnType.toList) := by
  simp [descriptor]

end Signature.Parts

namespace Signature

/-- Text is cut at its first arrow. -/
theorem cut?_arrow {text before after : List Char} :
    cut? arrow text = some (before, after) ↔
      text = before ++ arrow ++ after ∧ ¬ arrow <:+: before :=
  cut?_eq_some_iff (by decide)

variable {parts : Parts}

theorem cut?_text (legible : parts.Legible) :
    cut? arrow parts.text.toList =
      some (parts.className.toList, parts.descriptor.toList) :=
  cut?_arrow.mpr ⟨parts.toList_text, legible.arrow⟩

theorem classPart_text (legible : parts.Legible) : classPart parts.text = parts.className := by
  rw [classPart, cut?_text legible]
  exact String.ofList_toList

theorem descriptorPart_text (legible : parts.Legible) :
    descriptorPart parts.text = parts.descriptor := by
  rw [descriptorPart, cut?_text legible]
  exact String.ofList_toList

end Signature

namespace Method

open Signature (Parts cut?_arrow cut?_singleton)

/-- What is written from legible parts is read as the method that has them. -/
theorem parse_text {parts : Parts} (legible : parts.Legible) (flags : AccessFlags) :
    parse parts.text flags = .ok (parts.method flags) := by
  have closing : ')' ∉ (String.join parts.declaredTypes).toList := by
    rw [String.toList_join, List.mem_flatMap]
    rintro ⟨type, member, occurs⟩
    exact legible.closing type member occurs
  have afterClass := Signature.cut?_text legible
  have afterName := cut?_singleton.mpr ⟨parts.toList_descriptor, legible.opening⟩
  have afterParameters : cut? [')'] ((String.join parts.declaredTypes).toList ++
      ')' :: parts.returnType.toList) =
        some ((String.join parts.declaredTypes).toList, parts.returnType.toList) :=
    cut?_singleton.mpr ⟨rfl, closing⟩
  have returnType : parts.returnType.toList ≠ [] := by
    simpa using legible.returnType
  rw [parse, afterClass]
  simp only [afterName, afterParameters, Signature.parameters?_join legible.descriptors,
    String.ofList_toList, legible.isReference, returnType]
  rfl

/-- What is read as a method was written from legible parts, which are the method's. -/
theorem exists_parts_of_parse {signature : String} {flags : AccessFlags} {method : Method}
    (parsed : parse signature flags = .ok method) :
    ∃ parts : Parts, parts.Legible ∧ signature = parts.text ∧ method = parts.method flags := by
  rw [parse] at parsed
  split at parsed
  · cases parsed
  next className descriptor atArrow =>
  split at parsed
  · cases parsed
  next name afterName atOpening =>
  split at parsed
  · cases parsed
  next parameters returnType atClosing =>
  split at parsed
  · cases parsed
  next wellFormed =>
  split at parsed
  · cases parsed
  next declaredTypes read =>
  cases parsed
  obtain ⟨wholeSignature, noArrow⟩ := cut?_arrow.mp atArrow
  obtain ⟨wholeDescriptor, noOpening⟩ := cut?_singleton.mp atOpening
  obtain ⟨wholeList, noClosing⟩ := cut?_singleton.mp atClosing
  obtain ⟨isReference, nonempty⟩ := not_or.mp wellFormed
  have joined : (String.join declaredTypes).toList = parameters := by
    rw [String.toList_join, Signature.flatMap_parameters? read]
  let parts : Parts :=
    ⟨String.ofList className, String.ofList name, declaredTypes, String.ofList returnType⟩
  have descriptorWritten : String.ofList descriptor = parts.descriptor := by
    apply String.toList_injective
    rw [parts.toList_descriptor, joined, wholeDescriptor, wholeList]
    simp [parts]
  have signatureWritten : signature = parts.text := by
    apply String.toList_injective
    rw [parts.toList_text, ← descriptorWritten, wholeSignature]
    simp [parts]
  refine ⟨parts, ⟨?_, ?_, ?_, ?_, ?_, ?_⟩, signatureWritten, ?_⟩
  · simpa using isReference
  · simpa [parts] using noArrow
  · simpa [parts] using noOpening
  · exact Signature.isDescriptor_of_mem_parameters? read
  · intro type member occurs
    rw [← joined, String.toList_join] at noClosing
    exact noClosing (List.mem_flatMap.mpr ⟨type, member, occurs⟩)
  · simpa [parts] using nonempty
  · rw [Parts.method, ← signatureWritten, ← descriptorWritten]

/-- Exactly the texts are read that are written from legible parts. -/
theorem parse_eq_ok_iff {signature : String} {flags : AccessFlags} {method : Method} :
    parse signature flags = .ok method ↔
      ∃ parts : Parts, parts.Legible ∧ signature = parts.text ∧ method = parts.method flags := by
  constructor
  · exact exists_parts_of_parse
  · rintro ⟨parts, legible, rfl, rfl⟩
    exact parse_text legible flags

theorem contains_isStatic_flagsFor (name : String) (flags : AccessFlags) :
    (flagsFor name flags).contains AccessFlags.isStatic =
      flags.contains AccessFlags.isStatic := by
  rw [flagsFor]
  split
  · exact flags.contains_isStatic_union_isConstructor
  · rfl

/-- The receiver comes before the declared parameters, unless the flags say static. -/
theorem parameterTypes_method (parts : Parts) (flags : AccessFlags) :
    (parts.method flags).parameterTypes =
      if flags.contains AccessFlags.isStatic then parts.declaredTypes
      else parts.className :: parts.declaredTypes := by
  rw [parameterTypes, isStatic, Parts.method, contains_isStatic_flagsFor]

/-- If the declared parameters leave room for a receiver, the size of all parameters is a
number of 16 bits. -/
theorem parameterSize_method_lt {parts : Parts} (legible : parts.Legible) (flags : AccessFlags)
    (room : totalSize parts.declaredTypes + 1 < UInt16.size) :
    (parts.method flags).parameterSize < UInt16.size := by
  have receiver : parts.className.registerSize = 1 :=
    (Parsed.bodiless (parse_text legible flags)).registerSize_className
  rw [parameterSize, parameterTypes_method]
  split
  · omega
  · rw [totalSize_cons, receiver]
    omega

namespace Parsed

variable {method : Method}

/-- A body changes nothing of what a method was read from. -/
theorem exists_parts (parsed : method.Parsed) :
    ∃ parts : Parts, parts.Legible ∧ method.signature = parts.text ∧
      method.className = parts.className ∧ method.descriptor = parts.descriptor := by
  induction parsed with
  | bodiless parsed =>
      obtain ⟨parts, legible, _, rfl⟩ := parse_eq_ok_iff.mp parsed
      exact ⟨parts, legible, rfl, rfl, rfl⟩
  | withBody _ _ ih => exact ih

theorem classPart_signature (parsed : method.Parsed) :
    Signature.classPart method.signature = method.className := by
  obtain ⟨parts, legible, signature, className, _⟩ := parsed.exists_parts
  rw [signature, className, Signature.classPart_text legible]

theorem descriptorPart_signature (parsed : method.Parsed) :
    Signature.descriptorPart method.signature = method.descriptor := by
  obtain ⟨parts, legible, signature, _, descriptor⟩ := parsed.exists_parts
  rw [signature, descriptor, Signature.descriptorPart_text legible]

end Parsed

end Method

/-! ## Method tables -/

namespace ClassDef

variable (definition : ClassDef)

theorem method?_declare (method : Method) (descriptor : String) :
    (definition.declare method).method? descriptor =
      ([method].find? fun other => other.descriptor == descriptor).or
        (definition.method? descriptor) := by
  by_cases same : method.descriptor = descriptor
  · subst same
    simp
  · rw [definition.method?_declare_of_ne (Ne.symm same)]
    simp [same]

/-- Of several methods of one descriptor the one declared last is found. -/
theorem method?_foldl_declare (methods : List Method) (descriptor : String) :
    (methods.foldl declare definition).method? descriptor =
      (methods.reverse.find? fun method => method.descriptor == descriptor).or
        (definition.method? descriptor) := by
  induction methods generalizing definition with
  | nil => rfl
  | cons method rest ih =>
      rw [List.foldl_cons, ih, method?_declare, List.reverse_cons, List.find?_append,
        Option.or_assoc]

@[simp] theorem name_foldl_declare (methods : List Method) :
    (methods.foldl declare definition).name = definition.name := by
  induction methods generalizing definition with
  | nil => rfl
  | cons method rest ih => exact ih (definition.declare method)

/-- Among methods of the descriptor there is one after which there is none. -/
theorem exists_last {methods : List Method} {method : Method} (member : method ∈ methods) :
    ∃ earlier last later, methods = earlier ++ last :: later ∧
      last.descriptor = method.descriptor ∧
      (∀ other ∈ later, other.descriptor ≠ method.descriptor) ∧
      methods.reverse.find? (fun other => other.descriptor == method.descriptor) =
        some last := by
  have present : (methods.reverse.find?
      fun other => other.descriptor == method.descriptor).isSome = true := by
    rw [List.find?_isSome]
    exact ⟨method, List.mem_reverse.mpr member, beq_self_eq_true _⟩
  obtain ⟨last, found⟩ := Option.isSome_iff_exists.mp present
  obtain ⟨same, later, earlier, split, none⟩ := List.find?_eq_some_iff_append.mp found
  refine ⟨earlier.reverse, last, later.reverse, ?_, eq_of_beq same, ?_, found⟩
  · rw [← List.reverse_inj, split]
    simp
  · intro other otherMember
    simpa using none other (List.mem_reverse.mp otherMember)

end ClassDef

namespace Catalog

/-- A signature names the last method of its descriptor among those that its class
declares. -/
theorem exists_method_register (catalog : Catalog) {bare : ClassDef} {methods : List Method}
    {method : Method}
    (own : ∀ method ∈ methods, method.Parsed ∧ method.className = bare.name)
    (member : method ∈ methods) :
    ∃ earlier last later, methods = earlier ++ last :: later ∧
      last.descriptor = method.descriptor ∧
      (∀ other ∈ later, other.descriptor ≠ method.descriptor) ∧
      (catalog.register (methods.foldl ClassDef.declare bare)).method method.signature =
        .ok last := by
  obtain ⟨parsed, className⟩ := own method member
  obtain ⟨earlier, last, later, split, same, none, found⟩ := ClassDef.exists_last member
  refine ⟨earlier, last, later, split, same, none, ?_⟩
  have registered : (catalog.register (methods.foldl ClassDef.declare bare)).find? bare.name =
      some (methods.foldl ClassDef.declare bare) := by
    have self := catalog.find?_register_self (methods.foldl ClassDef.declare bare)
    rwa [ClassDef.name_foldl_declare] at self
  have declared : (methods.foldl ClassDef.declare bare).method? method.descriptor =
      some last := by
    rw [ClassDef.method?_foldl_declare, found, Option.some_or]
  rw [Catalog.method, parsed.classPart_signature, className, Catalog.resolve, registered]
  simp only [parsed.descriptorPart_signature, declared]

end Catalog

namespace Method

open Signature (Parts)

/-- Reading a signature inverts writing it, and looking a method up cuts a signature as
reading it does.  A text that is read is written from the parts that are found, and cut at
the first arrow; legible parts are found again in what is written from them, with the class
in front of the parameters of a method that is not static; and a signature of a class names
the last method that the class declares under its descriptor. -/
theorem parse_inverts_text :
    (∀ signature flags method, parse signature flags = .ok method →
      signature = method.className ++ "->" ++ (method.name ++ "(" ++
        String.join method.declaredTypes ++ ")" ++ method.returnType) ∧
      signature = method.className ++ "->" ++ method.descriptor ∧
      ¬ Signature.arrow <:+: method.className.toList ∧
      Signature.classPart signature = method.className ∧
      Signature.descriptorPart signature = method.descriptor) ∧
    (∀ (parts : Parts) (flags : AccessFlags), parts.Legible →
      parse parts.text flags = .ok (parts.method flags) ∧
      ((parts.method flags).parameterTypes =
        if flags.contains AccessFlags.isStatic then parts.declaredTypes
        else parts.className :: parts.declaredTypes) ∧
      (totalSize parts.declaredTypes + 1 < UInt16.size →
        (parts.method flags).parameterSize < UInt16.size)) ∧
    ∀ (catalog : Catalog) (bare : ClassDef) (methods : List Method),
      (∀ method ∈ methods, method.Parsed ∧ method.className = bare.name) →
      ∀ method ∈ methods, ∃ earlier last later, methods = earlier ++ last :: later ∧
        last.descriptor = method.descriptor ∧
        (∀ other ∈ later, other.descriptor ≠ method.descriptor) ∧
        (catalog.register (methods.foldl ClassDef.declare bare)).method method.signature =
          .ok last := by
  refine ⟨?_, ?_, ?_⟩
  · intro signature flags method parsed
    obtain ⟨parts, legible, rfl, rfl⟩ := parse_eq_ok_iff.mp parsed
    exact ⟨rfl, rfl, legible.arrow, Signature.classPart_text legible,
      Signature.descriptorPart_text legible⟩
  · intro parts flags legible
    exact ⟨parse_text legible flags, parameterTypes_method parts flags,
      parameterSize_method_lt legible flags⟩
  · intro catalog bare methods own method member
    exact catalog.exists_method_register own member

/-- A class that ends as an arrow starts, and a name with an arrow and a parenthesis. -/
def overlapping : Parts where
  className := "Lapp/Box-"
  name := "put->)"
  declaredTypes := ["I", "[[J"]
  returnType := "V)"

theorem parse_inverts_text_overlapping :
    let plain := overlapping.method AccessFlags.isPublic
    let static := (overlapping.method AccessFlags.isStatic).withBody 7
    let catalog : Catalog := {}
    let bare : ClassDef := { name := "Lapp/Box-" }
    overlapping.text = "Lapp/Box-->put->)(I[[J)V)" ∧
      Signature.classPart overlapping.text = "Lapp/Box-" ∧
      parse overlapping.text AccessFlags.isPublic = .ok plain ∧
      plain.parameterSize < UInt16.size ∧
      ∃ earlier last later, [plain, static] = earlier ++ last :: later ∧
        last.descriptor = plain.descriptor ∧
        (∀ other ∈ later, other.descriptor ≠ plain.descriptor) ∧
        (catalog.register ([plain, static].foldl ClassDef.declare bare)).method
          plain.signature = .ok last := by
  intro plain static catalog bare
  have legible : overlapping.Legible := by
    refine ⟨by decide, by decide, by decide, ?_, by decide, by decide⟩
    intro type member
    rcases List.mem_cons.mp member with rfl | later
    · exact .primitive (by decide)
    · rw [List.mem_singleton.mp later]
      exact .array (.array (.primitive (by decide)))
  obtain ⟨cuts, reads, finds⟩ := parse_inverts_text
  obtain ⟨parsed, _, small⟩ := reads overlapping AccessFlags.isPublic legible
  have parsedStatic := (reads overlapping AccessFlags.isStatic legible).1
  obtain ⟨_, _, _, className, _⟩ := cuts _ _ _ parsed
  have own : ∀ method ∈ [plain, static], method.Parsed ∧ method.className = bare.name := by
    intro method member
    rcases List.mem_cons.mp member with rfl | later
    · exact ⟨.bodiless parsed, rfl⟩
    · rw [List.mem_singleton.mp later]
      exact ⟨.withBody (.bodiless parsedStatic) (by decide), rfl⟩
  exact ⟨by decide, className, parsed, small (by decide),
    finds catalog bare [plain, static] own plain (List.mem_cons_self ..)⟩

end Method

end Callsite
