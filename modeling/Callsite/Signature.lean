import Callsite.Text.Cut
import Callsite.TypeName

/-!
# Method signatures

A method is named by `class->name(parameters)result`.  The part after the arrow
is its descriptor, by which a class declares the method.  `descriptor?` reads one
type descriptor from the front of a parameter list and `parameters?` reads them
all; `descriptor?_eq_some` says that reading only cuts the list.
-/

namespace Callsite.Signature

open Callsite.Text (cut? occursIn)

/-- The arrow between the class and the descriptor. -/
def arrow : List Char := ['-', '>']

/-- The constructor of the root class. -/
def objectInit : String := "Ljava/lang/Object;-><init>()V"

/-- The declaring class.  Text without an arrow is taken for a class. -/
def classPart (signature : String) : TypeName :=
  match cut? arrow signature.toList with
  | some parts => String.ofList parts.1
  | none => signature

/-- The descriptor.  Text without an arrow is taken for a descriptor. -/
def descriptorPart (signature : String) : String :=
  match cut? arrow signature.toList with
  | some parts => String.ofList parts.2
  | none => signature

/-- Whether the signature names an instance constructor. -/
def isConstructor (signature : String) : Bool :=
  occursIn ";-><init>(".toList signature.toList

/-- Whether a letter is the descriptor of a primitive that has values. -/
def isValueLetter (letter : Char) : Bool :=
  ['Z', 'B', 'S', 'C', 'I', 'J', 'F', 'D'].contains letter

/-- One type descriptor and the text after it. -/
def descriptor? : List Char → Option (List Char × List Char)
  | [] => none
  | head :: rest =>
      if head = '[' then
        (descriptor? rest).map fun found => ('[' :: found.1, found.2)
      else if head = 'L' then
        (cut? [';'] rest).map fun found => ('L' :: (found.1 ++ [';']), found.2)
      else if isValueLetter head then
        some ([head], rest)
      else
        none

/-- Reading a descriptor cuts a nonempty piece from the front. -/
theorem descriptor?_eq_some {text found rest : List Char}
    (read : descriptor? text = some (found, rest)) :
    text = found ++ rest ∧ found ≠ [] := by
  induction text generalizing found with
  | nil => cases read
  | cons head tail ih =>
      simp only [descriptor?] at read
      split at read
      · next bracket =>
          cases element : descriptor? tail with
          | none => simp [element] at read
          | some parts =>
              simp only [element, Option.map_some, Option.some.injEq,
                Prod.mk.injEq] at read
              obtain ⟨rfl, rfl⟩ := read
              have split := (ih element).1
              refine ⟨?_, by simp⟩
              rw [List.cons_append, ← split, bracket]
      · split at read
        · next letter =>
            cases name : cut? [';'] tail with
            | none => simp [name] at read
            | some parts =>
                simp only [name, Option.map_some, Option.some.injEq,
                  Prod.mk.injEq] at read
                obtain ⟨rfl, rfl⟩ := read
                have split := Text.cut?_eq_some name
                refine ⟨?_, by simp⟩
                rw [List.cons_append, ← split, letter]
        · split at read
          · cases read
            simp
          · cases read

theorem descriptor?_shorter {text found rest : List Char}
    (read : descriptor? text = some (found, rest)) :
    rest.length < text.length := by
  obtain ⟨split, nonempty⟩ := descriptor?_eq_some read
  rw [split, List.length_append]
  have := List.length_pos_iff.mpr nonempty
  omega

/-- The descriptors that a parameter list consists of. -/
def parameters? (text : List Char) : Option (List TypeName) :=
  if text = [] then
    some []
  else
    match read : descriptor? text with
    | none => none
    | some (found, rest) =>
        have : rest.length < text.length := descriptor?_shorter read
        (parameters? rest).map fun others => String.ofList found :: others
termination_by text.length

/-- The descriptors read from a parameter list, written one after another, are
the list. -/
theorem flatMap_parameters? {text : List Char} {types : List TypeName}
    (read : parameters? text = some types) :
    types.flatMap String.toList = text := by
  fun_induction parameters? text generalizing types with
  | case1 => cases read; rfl
  | case2 => cases read
  | case3 text nonempty found rest split _ ih =>
      obtain ⟨others, later, rfl⟩ := Option.map_eq_some_iff.mp read
      rw [(descriptor?_eq_some split).1]
      simp [ih later]

end Callsite.Signature
