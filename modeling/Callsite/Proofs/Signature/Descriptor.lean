import Callsite.Signature
import Mathlib.Data.List.Infix

/-!
# The grammar of parameter lists

A type descriptor is a letter for a primitive, `L…;` around the path of a class, or a
bracket in front of another descriptor.  `descriptor?` finds exactly the descriptors that
text starts with, so that text is a sequence of descriptors in one way at most, and
`parameters?` finds that way whenever there is one.
-/

namespace Callsite.Signature

open Callsite.Text (cut? cut?_eq_some_iff)

/-- The descriptors of types that have values. -/
inductive IsDescriptor : List Char → Prop where
  | primitive {letter : Char} : isValueLetter letter = true → IsDescriptor [letter]
  | named {path : List Char} : ';' ∉ path → IsDescriptor ('L' :: (path ++ [';']))
  | array {element : List Char} : IsDescriptor element → IsDescriptor ('[' :: element)

theorem IsDescriptor.ne_nil {text : List Char} (descriptor : IsDescriptor text) : text ≠ [] := by
  cases descriptor <;> simp

/-- Text is cut at the first copy of a character. -/
theorem cut?_singleton {character : Char} {text before after : List Char} :
    cut? [character] text = some (before, after) ↔
      text = before ++ character :: after ∧ character ∉ before := by
  rw [cut?_eq_some_iff List.not_mem_nil, List.singleton_infix_iff, List.append_assoc,
    List.singleton_append]

theorem isDescriptor_of_descriptor? {text found rest : List Char}
    (read : descriptor? text = some (found, rest)) : IsDescriptor found := by
  induction text generalizing found with
  | nil => cases read
  | cons head tail ih =>
      rw [descriptor?] at read
      split at read
      · obtain ⟨⟨element, _⟩, inner, same⟩ := Option.map_eq_some_iff.mp read
        cases same
        exact .array (ih inner)
      · split at read
        · obtain ⟨⟨path, _⟩, named, same⟩ := Option.map_eq_some_iff.mp read
          cases same
          exact .named (cut?_singleton.mp named).2
        · split at read
          · next letter =>
              cases read
              exact .primitive letter
          · cases read

theorem descriptor?_append {found : List Char} (descriptor : IsDescriptor found)
    (rest : List Char) : descriptor? (found ++ rest) = some (found, rest) := by
  induction descriptor with
  | @primitive letter value =>
      have notBracket : letter ≠ '[' := by
        rintro rfl
        cases value
      have notClass : letter ≠ 'L' := by
        rintro rfl
        cases value
      rw [List.singleton_append, descriptor?, if_neg notBracket, if_neg notClass, if_pos value]
  | @named path free =>
      have cut : cut? [';'] (path ++ [';'] ++ rest) = some (path, rest) :=
        cut?_singleton.mpr ⟨by simp, free⟩
      rw [List.cons_append, descriptor?, if_neg (by decide), if_pos rfl, cut]
      rfl
  | array _ ih =>
      rw [List.cons_append, descriptor?, if_pos rfl, ih]
      rfl

/-- A descriptor is read off the front of text exactly if the text starts with it. -/
theorem descriptor?_eq_some_iff {text found rest : List Char} :
    descriptor? text = some (found, rest) ↔ IsDescriptor found ∧ text = found ++ rest := by
  constructor
  · intro read
    exact ⟨isDescriptor_of_descriptor? read, (descriptor?_eq_some read).1⟩
  · rintro ⟨descriptor, rfl⟩
    exact descriptor?_append descriptor rest

/-- The text is the given descriptors, one after another. -/
structure Lists (text : String) (types : List TypeName) : Prop where
  descriptors : ∀ type ∈ types, IsDescriptor type.toList
  join : String.join types = text

theorem parameters?_append {found rest : List Char} (descriptor : IsDescriptor found) :
    parameters? (found ++ rest) =
      (parameters? rest).map fun others => String.ofList found :: others := by
  have nonempty : found ++ rest ≠ [] := by simp [descriptor.ne_nil]
  have read : descriptor? (found ++ rest) = some (found, rest) :=
    descriptor?_eq_some_iff.mpr ⟨descriptor, rfl⟩
  rw [parameters?, if_neg nonempty]
  split
  · next unread =>
      rw [read] at unread
      cases unread
  · next again =>
      rw [read] at again
      cases again
      rfl

theorem parameters?_join {types : List TypeName}
    (descriptors : ∀ type ∈ types, IsDescriptor type.toList) :
    parameters? (String.join types).toList = some types := by
  induction types with
  | nil => rw [String.join_nil, String.toList_empty, parameters?, if_pos rfl]
  | cons type rest ih =>
      obtain ⟨here, later⟩ := List.forall_mem_cons.mp descriptors
      rw [String.join_cons, String.toList_append, parameters?_append here, ih later,
        String.ofList_toList]
      rfl

theorem isDescriptor_of_mem_parameters? {text : List Char} {types : List TypeName}
    (read : parameters? text = some types) : ∀ type ∈ types, IsDescriptor type.toList := by
  fun_induction parameters? text generalizing types with
  | case1 => simp_all
  | case2 => cases read
  | case3 text _ found rest split _ ih =>
      obtain ⟨others, later, rfl⟩ := Option.map_eq_some_iff.mp read
      refine List.forall_mem_cons.mpr ⟨?_, ih later⟩
      rw [String.toList_ofList]
      exact (descriptor?_eq_some_iff.mp split).1

/-- A parameter list is read as the descriptors that it lists. -/
theorem parameters?_eq_some_iff {text : String} {types : List TypeName} :
    parameters? text.toList = some types ↔ Lists text types := by
  constructor
  · intro read
    refine ⟨isDescriptor_of_mem_parameters? read, String.toList_injective ?_⟩
    rw [String.toList_join, flatMap_parameters? read]
  · rintro ⟨descriptors, rfl⟩
    exact parameters?_join descriptors

theorem parameters?_eq_none_iff {text : String} :
    parameters? text.toList = none ↔ ¬ ∃ types, Lists text types := by
  simp only [← parameters?_eq_some_iff, Option.eq_none_iff_forall_ne_some, not_exists, ne_eq]

/-- Text lists descriptors in one way at most. -/
theorem Lists.unique {text : String} {types others : List TypeName} (lists : Lists text types)
    (again : Lists text others) : types = others := by
  have read := parameters?_eq_some_iff.mpr lists
  rw [parameters?_eq_some_iff.mpr again] at read
  exact (Option.some.inj read).symm

end Callsite.Signature
