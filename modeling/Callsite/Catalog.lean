import Callsite.ClassDef

/-!
# The class hierarchy

A catalog holds the classes that are known.  The supertypes of a type are listed
nearest first, one level of the hierarchy after another; assignability, the
nearest common supertype and the type that an argument is passed as are read off
those lists.  A type that is listed as a supertype without being known itself is
kept but not followed.
-/

namespace Callsite

/-- The known classes, one of each name as long as they are added by `register`. -/
structure Catalog where
  classes : List ClassDef := []

namespace Catalog

/-- The number of levels above a type that are followed. -/
def maxDepth : Nat := 64

variable (catalog : Catalog)

/-- Add a class in place of any other of its name. -/
def register (definition : ClassDef) : Catalog :=
  { classes :=
      catalog.classes.filter (fun other => other.name != definition.name) ++
        [definition] }

/-- The class registered under a name. -/
def find? (name : TypeName) : Option ClassDef :=
  catalog.classes.find? fun definition => definition.name == name

/-- Whether a class is registered under a name. -/
def contains (name : TypeName) : Bool := (catalog.find? name).isSome

/-- The number of registered classes. -/
def size : Nat := catalog.classes.length

/-- The class of a name.  Array types need not be registered. -/
def resolve (name : TypeName) : Except Error ClassDef :=
  match catalog.find? name with
  | some definition => .ok definition
  | none =>
      if name.isArray then .ok (ClassDef.ofArray name)
      else .error (.typeNotFound name)

/-- The method of a full signature, as its class declares it. -/
def method (signature : String) : Except Error Method :=
  match catalog.resolve (Signature.classPart signature) with
  | .error error => .error error
  | .ok definition =>
      match definition.method? (Signature.descriptorPart signature) with
      | some method => .ok method
      | none => .error (.methodNotFound signature)

/-- The direct supertypes of a type, none if the type is unknown. -/
def supertypes (name : TypeName) : List TypeName :=
  match catalog.resolve name with
  | .ok definition => definition.supertypes
  | .error _ => []

/-- List the types of one level that are not yet listed.  The second part
collects the direct supertypes of those, which form the next level. -/
def visitLevel (listed : List TypeName) :
    List TypeName → List TypeName × List TypeName
  | [] => (listed, [])
  | name :: rest =>
      if listed.contains name then
        visitLevel listed rest
      else
        let (listed, next) := visitLevel (listed ++ [name]) rest
        (listed, catalog.supertypes name ++ next)

/-- List the types of a level and of all levels above it.  A level that is still
to be visited when none is left to visit makes the hierarchy too deep. -/
def visitLevels : Nat → List TypeName → List TypeName →
    Except Error (List TypeName)
  | _, listed, [] => .ok listed
  | 0, _, _ :: _ => .error (.hierarchyLimit maxDepth)
  | levels + 1, listed, name :: rest =>
      let (listed, next) := catalog.visitLevel listed (name :: rest)
      visitLevels levels listed next

/-- The type itself and all its supertypes, nearest first.  Every reference type
has the root class among them, in the last place if nowhere else. -/
def ancestors (name : TypeName) : Except Error (List TypeName) :=
  if name.isPrimitive then
    .ok [name]
  else
    match catalog.resolve name with
    | .error error => .error error
    | .ok definition =>
        match catalog.visitLevels (maxDepth + 1) [] [definition.name] with
        | .error error => .error error
        | .ok listed =>
            .ok (if listed.contains TypeName.object then listed
              else listed ++ [TypeName.object])

/-- Whether a chain of supertypes, if there is one, lists a type. -/
def chainContains (chain : Except Error (List TypeName)) (type : TypeName) : Bool :=
  match chain with
  | .ok types => types.contains type
  | .error _ => false

/-- What assignability of one type to another comes down to. -/
inductive Assignability where
  | decided (holds : Bool)
  /-- The one type must be a supertype of the other. -/
  | inheritance (actual declared : TypeName)
  deriving DecidableEq

/-- The question that decides assignability.  A type is assignable to itself, an
array to the root class and the interfaces of arrays, and two arrays of as many
dimensions are assignable if their elements are, primitive elements only to the
same primitive. -/
def assignability (actual declared : TypeName) : Assignability :=
  if actual = declared then
    .decided true
  else if 0 < actual.dimensions ∧ declared.dimensions = 0 then
    .decided (declared == TypeName.object || TypeName.arrayInterfaces.contains declared)
  else if actual.dimensions ≠ declared.dimensions then
    .decided false
  else if 0 < actual.dimensions ∧
      (actual.elementBase.isPrimitive ∨ declared.elementBase.isPrimitive) then
    .decided (actual.elementBase == declared.elementBase)
  else
    .inheritance actual.elementBase declared.elementBase

/-- Whether a value of one type can be used where another is expected. -/
def isInstanceOf (actual declared : TypeName) : Bool :=
  match assignability actual declared with
  | .decided holds => holds
  | .inheritance actual declared => chainContains (catalog.ancestors actual) declared

/-- The first type of one chain that the other lists too, the root class if
there is none or a chain is missing. -/
def firstShared (left right : Except Error (List TypeName)) : TypeName :=
  match left, right with
  | .ok left, .ok right =>
      (left.find? fun candidate => right.contains candidate).getD TypeName.object
  | _, _ => TypeName.object

/-- The nearest type that values of both types can be used as. -/
def commonAncestor (left right : TypeName) : TypeName :=
  if left = right then left
  else firstShared (catalog.ancestors left) (catalog.ancestors right)

/-- The type to pass an argument as, by the supertypes of its element type: its
own type if that is a subtype of the declared one, else the declared type. -/
def narrower (chain : Except Error (List TypeName)) (actual declared : TypeName) :
    TypeName :=
  if chainContains chain declared then actual else declared

/-- The type that an argument is passed as.  The declared type tells more than
the static type of a primitive. -/
def reconcile (item : TypedValue) (declared : TypeName) : TypeName :=
  if item.hasPrimitiveBase then declared
  else narrower (catalog.ancestors item.type.elementBase) item.type declared

/-- Whether the class of a signature comes with the platform.  Of a class that
is not registered the package tells. -/
def isFramework (signature : String) : Bool :=
  let name := (Signature.classPart signature).elementBase
  match catalog.find? name with
  | some definition => definition.origin == .framework
  | none => name.inPlatformPackage

@[simp] theorem find?_register_self (definition : ClassDef) :
    (catalog.register definition).find? definition.name = some definition := by
  simp only [register, find?, List.find?_append]
  have absent : (catalog.classes.filter
      fun other => other.name != definition.name).find?
        (fun other => other.name == definition.name) = none := by
    simp
  rw [absent]
  simp

theorem find?_register_of_ne {definition : ClassDef} {name : TypeName}
    (different : name ≠ definition.name) :
    (catalog.register definition).find? name = catalog.find? name := by
  simp only [register, find?, List.find?_append, List.find?_filter]
  have absent : [definition].find? (fun other => other.name == name) = none := by
    simp [Ne.symm different]
  rw [absent, Option.or_none]
  congr 1
  funext other
  by_cases same : other.name = name
  · simp [same, different]
  · simp [same]

@[simp] theorem isInstanceOf_self (type : TypeName) :
    catalog.isInstanceOf type type = true := by
  simp [isInstanceOf, assignability]

@[simp] theorem commonAncestor_self (type : TypeName) :
    catalog.commonAncestor type type = type := by
  simp [commonAncestor]

@[simp] theorem ancestors_of_isPrimitive {name : TypeName}
    (primitive : name.isPrimitive = true) :
    catalog.ancestors name = .ok [name] := by
  simp [ancestors, primitive]

end Catalog

end Callsite
