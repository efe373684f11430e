import Callsite.Method

/-!
# Classes

A class is known by its name, its direct supertypes, its modifiers and the
methods that it declares.  Declaring a method under a descriptor puts it in the
place of any other under that descriptor.
-/

namespace Callsite

/-- Where a class comes from. -/
inductive Origin where
  /-- The platform. -/
  | framework
  /-- The analyzed program. -/
  | application
  deriving DecidableEq, Repr

namespace Origin

/-- The word for an origin. -/
def text : Origin → String
  | .framework => "framework"
  | .application => "application"

/-- The origin that a word names. -/
def ofText? (word : String) : Option Origin :=
  [framework, application].find? fun origin => origin.text == word

@[simp] theorem ofText?_text (origin : Origin) :
    ofText? origin.text = some origin := by
  cases origin <;> decide

end Origin

/-- A class or interface. -/
structure ClassDef where
  name : TypeName
  superclass : Option TypeName := none
  interfaces : List TypeName := []
  origin : Origin := .application
  flags : AccessFlags := AccessFlags.isPublic
  methods : List Method := []
  deriving DecidableEq

namespace ClassDef

variable (definition : ClassDef)

/-- Whether the class is an interface. -/
def isInterface : Bool := definition.flags.contains AccessFlags.isInterface

/-- Whether the class cannot have instances of its own. -/
def isAbstract : Bool :=
  definition.flags.contains AccessFlags.isAbstract || definition.isInterface

/-- Declare a method in place of any other with its descriptor. -/
def declare (method : Method) : ClassDef :=
  { definition with
    methods :=
      definition.methods.filter (fun other => other.descriptor != method.descriptor) ++
        [method] }

/-- The method that the class declares under a descriptor. -/
def method? (descriptor : String) : Option Method :=
  definition.methods.find? fun method => method.descriptor == descriptor

/-- The superclass, then the interfaces. -/
def supertypes : List TypeName :=
  definition.superclass.toList ++ definition.interfaces

/-- What every array type is: a platform class under the root class with the
interfaces of arrays. -/
def ofArray (type : TypeName) : ClassDef :=
  { name := type
    superclass := some TypeName.object
    interfaces := TypeName.arrayInterfaces
    origin := .framework }

@[simp] theorem method?_declare_self (method : Method) :
    (definition.declare method).method? method.descriptor = some method := by
  simp only [declare, method?, List.find?_append]
  have absent : (definition.methods.filter
      fun other => other.descriptor != method.descriptor).find?
        (fun other => other.descriptor == method.descriptor) = none := by
    simp
  rw [absent]
  simp

theorem method?_declare_of_ne {method : Method} {descriptor : String}
    (different : descriptor ≠ method.descriptor) :
    (definition.declare method).method? descriptor =
      definition.method? descriptor := by
  simp only [declare, method?, List.find?_append, List.find?_filter]
  have absent : [method].find? (fun other => other.descriptor == descriptor) = none := by
    simp [Ne.symm different]
  rw [absent, Option.or_none]
  congr 1
  funext other
  by_cases same : other.descriptor = descriptor
  · simp [same, different]
  · simp [same]

end ClassDef

end Callsite
