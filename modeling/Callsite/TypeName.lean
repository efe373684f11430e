/-!
# Type descriptors

A type is named by its descriptor: one letter for a primitive, `L…;` for a class
or interface, and one `[` for each array dimension in front of the element type.
A register holds 32 bits, so `J` and `D` take two.
-/

namespace Callsite

/-- The descriptor of a type. -/
abbrev TypeName := String

namespace TypeName

/-- The root of the class hierarchy. -/
def object : TypeName := "Ljava/lang/Object;"

/-- Character strings. -/
def string : TypeName := "Ljava/lang/String;"

/-- Growable character buffers. -/
def stringBuilder : TypeName := "Ljava/lang/StringBuilder;"

/-- Class objects. -/
def classObject : TypeName := "Ljava/lang/Class;"

/-- The absent result of a method that returns nothing. -/
def void : TypeName := "V"

/-- The type of `int` constants. -/
def int : TypeName := "I"

/-- The interfaces that every array type implements. -/
def arrayInterfaces : List TypeName :=
  ["Ljava/lang/Cloneable;", "Ljava/io/Serializable;"]

/-- The reference types whose instances never change after construction. -/
def valueClasses : List TypeName :=
  ["Ljava/lang/Boolean;", "Ljava/lang/Byte;", "Ljava/lang/Character;",
    "Ljava/lang/Class;", "Ljava/lang/Double;", "Ljava/lang/Float;",
    "Ljava/lang/Integer;", "Ljava/lang/Long;", "Ljava/lang/Short;",
    "Ljava/lang/String;", "Ljava/math/BigDecimal;", "Ljava/math/BigInteger;"]

/-- Package paths of the classes that come with the platform. -/
def platformPackages : List String :=
  ["Ljava/", "Ljavax/", "Landroid/", "Ldalvik/"]

/-- Whether the type is a primitive, `void` included. -/
def isPrimitive (type : TypeName) : Bool :=
  ["Z", "B", "S", "C", "I", "J", "F", "D", "V"].contains type

/-- Whether the type is a class, an interface or an array. -/
def isReference (type : TypeName) : Bool :=
  match type.toList with
  | 'L' :: _ => true
  | '[' :: _ => true
  | _ => false

/-- Whether the type is an array. -/
def isArray (type : TypeName) : Bool :=
  match type.toList with
  | '[' :: _ => true
  | _ => false

/-- Whether a value of the type takes two registers. -/
def isWide (type : TypeName) : Bool :=
  ["J", "D"].contains type

/-- Whether the type is one of those that a small integer constant may stand
for. -/
def isIntLike (type : TypeName) : Bool :=
  ["Z", "B", "S", "C", "I"].contains type

/-- The number of registers that a value of the type takes. -/
def registerSize (type : TypeName) : Nat :=
  if type.isWide then 2 else 1

/-- The element type under all array dimensions. -/
def elementBase (type : TypeName) : TypeName :=
  String.ofList (type.toList.dropWhile (· == '['))

/-- The number of array dimensions. -/
def dimensions (type : TypeName) : Nat :=
  (type.toList.takeWhile (· == '[')).length

/-- Whether values of the type cannot change, whatever the policy says. -/
def isImmutable (type : TypeName) : Bool :=
  type.isPrimitive || valueClasses.contains type

/-- Whether the type lies in a package that comes with the platform. -/
def inPlatformPackage (type : TypeName) : Bool :=
  platformPackages.any fun path => path.toList.isPrefixOf type.toList

/-- The name of the type in source code: `java.lang.String` for a class, the
descriptor itself for anything else. -/
def sourceName (type : TypeName) : String :=
  match type.toList with
  | 'L' :: body =>
      match body.reverse with
      | ';' :: path =>
          String.ofList
            (path.reverse.map fun character => if character = '/' then '.' else character)
      | _ => type
  | _ => type

theorem registerSize_pos (type : TypeName) : 0 < type.registerSize := by
  rw [registerSize]
  split <;> decide

@[simp] theorem registerSize_of_isWide {type : TypeName}
    (wide : type.isWide = true) : type.registerSize = 2 := by
  simp [registerSize, wide]

@[simp] theorem registerSize_of_not_isWide {type : TypeName}
    (narrow : type.isWide = false) : type.registerSize = 1 := by
  simp [registerSize, narrow]

/-- The brackets and the element type together are the descriptor. -/
theorem replicate_dimensions_append_elementBase (type : TypeName) :
    List.replicate type.dimensions '[' ++ type.elementBase.toList =
      type.toList := by
  have brackets : type.toList.takeWhile (· == '[') =
      List.replicate type.dimensions '[' := by
    apply List.eq_replicate_of_mem
    intro character member
    simpa using List.all_eq_true.mp List.all_takeWhile character member
  rw [← brackets, elementBase, String.toList_ofList,
    List.takeWhile_append_dropWhile]

end TypeName

end Callsite
