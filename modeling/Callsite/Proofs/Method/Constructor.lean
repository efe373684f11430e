import Callsite.Proofs.Method.Printing
import Callsite.Proofs.Text.Occurrence

/-!
# Constructors by their signature and by their name

Whether a method is a constructor can be asked of the text of its signature, which is searched
for a mark, or of the method that was read from it.  The mark has an arrow in it, so it stands
across the first arrow of the signature or behind it.  Across the arrow it says what the name of
the method says, and behind it there is room for it only if there is a second arrow.
-/

namespace Callsite

open Text (OccursOnce cut? occursIn_iff occursOnce_iff eq_or_exists_of_cut?)

namespace Signature

/-- What the text of a constructor is searched for: the end of a class name, the arrow, and the
name of a constructor in front of its parameters. -/
def constructorMark : List Char := [';'] ++ (arrow ++ ("<init>".toList ++ ['(']))

variable {before after left right : List Char} {parts : Parts}

/-- An arrow is the one at which a signature is cut, or it stands in the descriptor. -/
theorem eq_or_exists_of_cut?_arrow
    (cut : cut? arrow (left ++ arrow ++ right) = some (before, after)) :
    (left = before ∧ right = after) ∨
      ∃ between, left = before ++ arrow ++ between ∧ after = between ++ arrow ++ right :=
  eq_or_exists_of_cut? (by decide) cut

theorem occursOnce_arrow_text (legible : parts.Legible) :
    OccursOnce arrow parts.text.toList ↔ ¬ arrow <:+: parts.descriptor.toList :=
  occursOnce_iff (by decide) (cut?_text legible)

theorem isConstructor_iff {signature : String} :
    isConstructor signature = true ↔ constructorMark <:+: signature.toList := by
  have mark : ";-><init>(".toList = constructorMark := by decide
  rw [isConstructor, mark, occursIn_iff]

theorem append_constructorMark (before after : List Char) :
    before ++ constructorMark ++ after =
      before ++ [';'] ++ arrow ++ ("<init>".toList ++ '(' :: after) := by
  simp only [constructorMark, List.append_assoc, List.cons_append, List.nil_append]

/-- A semicolon at the end of text stands behind its arrows. -/
theorem exists_concat_of_arrow {first between : List Char}
    (same : before ++ [';'] = first ++ arrow ++ between) :
    ∃ others, between = others ++ [';'] := by
  have ending := congrArg List.getLast? same
  rcases List.eq_nil_or_concat' between with rfl | ⟨others, last, rfl⟩
  · simp [arrow] at ending
  · simp only [← List.append_assoc, List.getLast?_concat, Option.some.injEq] at ending
    exact ⟨others, by rw [ending]⟩

/-- A descriptor starts with the name that stands in front of its first parenthesis. -/
theorem name_of_descriptor {name : String} (legible : parts.Legible)
    (opening : '(' ∉ name.toList) (same : parts.descriptor.toList = name.toList ++ '(' :: after) :
    parts.name = name := by
  have named := cut?_singleton.mpr ⟨parts.toList_descriptor, legible.opening⟩
  rw [cut?_singleton.mpr ⟨same, opening⟩, Option.some.injEq, Prod.mk.injEq] at named
  exact String.toList_injective named.1.symm

/-- The mark stands at the arrow, between a class name and the name of a constructor, or in the
descriptor. -/
theorem isConstructor_text (legible : parts.Legible) :
    isConstructor parts.text = true ↔
      (parts.name = "<init>" ∧ [';'] <:+ parts.className.toList) ∨
        constructorMark <:+: parts.descriptor.toList := by
  rw [isConstructor_iff]
  constructor
  · rintro ⟨before, after, same⟩
    have cut := cut?_text legible
    rw [← same, append_constructorMark] at cut
    rcases eq_or_exists_of_cut?_arrow cut with
      ⟨className, descriptor⟩ | ⟨between, className, descriptor⟩
    · left
      exact ⟨name_of_descriptor legible (by decide) descriptor.symm, before, className⟩
    · right
      obtain ⟨others, rfl⟩ := exists_concat_of_arrow className
      exact ⟨others, after, by rw [append_constructorMark, descriptor]⟩
  · rintro (⟨name, before, className⟩ | within)
    · refine ⟨before, (String.join parts.declaredTypes).toList ++ ')' :: parts.returnType.toList,
        ?_⟩
      rw [append_constructorMark, parts.toList_text, parts.toList_descriptor, className, name]
    · rw [parts.toList_text]
      exact within.trans (List.suffix_append _ _).isInfix

-- A stray mark, in the type of a result.
example : isConstructor "Lapp/Box;->peer()Lapp/Box;-><init>(" = true := by decide

/-- Behind the arrow there is a mark only if there is another arrow. -/
theorem not_constructorMark_of_occursOnce (legible : parts.Legible)
    (once : OccursOnce arrow parts.text.toList) :
    ¬ constructorMark <:+: parts.descriptor.toList := by
  intro within
  apply (occursOnce_arrow_text legible).mp once
  apply List.IsInfix.trans _ within
  exact ⟨[';'], "<init>".toList ++ ['('], by rw [constructorMark, List.append_assoc]⟩

end Signature

namespace Method

open Signature (Parts constructorMark)

/-- The names of constructors bring the modifier of constructors with them. -/
theorem contains_isConstructor_flagsFor {name : String}
    (listed : constructorNames.contains name = true) (flags : AccessFlags) :
    (flagsFor name flags).contains AccessFlags.isConstructor = true := by
  rw [flagsFor, if_pos listed]
  exact flags.contains_union_right AccessFlags.isConstructor

theorem isConstructor_method (parts : Parts) (flags : AccessFlags) :
    (parts.method flags).isConstructor = true ↔ parts.name = "<init>" := by
  rw [isConstructor, Bool.and_eq_true, beq_iff_eq]
  constructor
  · intro ⟨_, name⟩
    exact name
  · intro name
    have listed : constructorNames.contains parts.name = true := by
      rw [name]
      decide
    exact ⟨contains_isConstructor_flagsFor listed flags, name⟩

/-- The two tests for constructors.  A method that was read from a signature is a constructor
by its name, whatever flags it was given.  The text of the signature says the same if the class
ends as class names do and there is one arrow: without the first a constructor is overlooked,
and behind a second arrow there can be a stray mark. -/
theorem constructorTests_agree {signature : String} {flags : AccessFlags} {method : Method}
    (parsed : parse signature flags = .ok method) :
    (method.isConstructor = true ↔ method.name = "<init>") ∧
    (Signature.isConstructor signature = true ↔
      (method.name = "<init>" ∧ [';'] <:+ method.className.toList) ∨
        constructorMark <:+: method.descriptor.toList) ∧
    (OccursOnce Signature.arrow signature.toList →
      [';'] <:+ (Signature.classPart signature).toList →
        (Signature.isConstructor signature = true ↔ method.isConstructor = true)) := by
  obtain ⟨parts, legible, rfl, rfl⟩ := parse_eq_ok_iff.mp parsed
  have named := isConstructor_method parts flags
  have marked := Signature.isConstructor_text legible
  refine ⟨named, marked, ?_⟩
  intro once ending
  rw [Signature.classPart_text legible] at ending
  have absent := Signature.not_constructorMark_of_occursOnce legible once
  rw [marked, named, or_iff_left absent, and_iff_left ending]

/-- A class and a parameter type with the name of constructors in their paths. -/
def namedAlike : Parts where
  className := "Lapp/<init>(;"
  name := "<init>"
  declaredTypes := ["[L<init>;", "J"]
  returnType := "V"

theorem constructorTests_agree_namedAlike :
    let method := namedAlike.method AccessFlags.isStatic
    namedAlike.text = "Lapp/<init>(;-><init>([L<init>;J)V" ∧
      parse namedAlike.text AccessFlags.isStatic = .ok method ∧
      OccursOnce Signature.arrow namedAlike.text.toList ∧
      [';'] <:+ (Signature.classPart namedAlike.text).toList ∧
      Signature.isConstructor namedAlike.text = true ∧ method.isConstructor = true := by
  intro method
  have legible : namedAlike.Legible := by
    refine ⟨by decide, by decide, by decide, ?_, by decide, by decide⟩
    intro type member
    rcases List.mem_cons.mp member with rfl | later
    · have written : "[L<init>;".toList = '[' :: 'L' :: ("<init>".toList ++ [';']) := by decide
      rw [written]
      exact .array (.named (by decide))
    · rw [List.mem_singleton.mp later]
      exact .primitive (by decide)
  have parsed := parse_text legible AccessFlags.isStatic
  have once : OccursOnce Signature.arrow namedAlike.text.toList :=
    (Signature.occursOnce_arrow_text legible).mpr (by decide)
  have ending : [';'] <:+ (Signature.classPart namedAlike.text).toList := by decide
  have marked : Signature.isConstructor namedAlike.text = true := by decide
  exact ⟨by decide, parsed, once, ending, marked,
    ((constructorTests_agree parsed).2.2 once ending).mp marked⟩

end Method

end Callsite
