import Callsite.Value.Cast

/-!
# Typed values

A register holds a value together with the static type it was given.
-/

namespace Callsite

/-- A value and its static type. -/
structure TypedValue where
  value : Value
  type : TypeName
  deriving DecidableEq, Inhabited

namespace TypedValue

/-- An unknown value of a type. -/
def unknown (type : TypeName) : TypedValue := ⟨.unknown, type⟩

/-- The `null` reference, typed by the root class. -/
def null : TypedValue := ⟨.null, TypeName.object⟩

/-- An `int` constant. -/
def int (value : Int32) : TypedValue := ⟨.int value, TypeName.int⟩

/-- A reference to a heap slot. -/
def reference (handle : Handle) (type : TypeName) : TypedValue :=
  ⟨.reference handle, type⟩

variable (item : TypedValue)

/-- Whether values of the static type cannot change. -/
def isImmutable : Bool := item.type.isImmutable

/-- Whether nothing is known of the value. -/
def isUnknown : Bool := item.value.isUnknown

/-- Whether the value is `null`. -/
def isNull : Bool := item.value.isNull

/-- Whether the static type is a primitive. -/
def isPrimitive : Bool := item.type.isPrimitive

/-- Whether the static type is a primitive or an array with primitive elements
under all its dimensions. -/
def hasPrimitiveBase : Bool := item.type.elementBase.isPrimitive

/-- The handle of a reference. -/
def handle? : Option Handle := item.value.handle?

/-- The same value under another static type. -/
def retyped (type : TypeName) : TypedValue := ⟨item.value, type⟩

/-- The value cast to a primitive type and given that static type. -/
def cast (type : TypeName) : TypedValue := ⟨item.value.cast type, type⟩

/-- The text of a typed value. -/
def text : String := item.value.text ++ " (" ++ item.type ++ ")"

@[simp] theorem isUnknown_unknown (type : TypeName) :
    (unknown type).isUnknown = true := rfl

@[simp] theorem handle?_unknown (type : TypeName) :
    (unknown type).handle? = none := rfl

@[simp] theorem handle?_reference (handle : Handle) (type : TypeName) :
    (reference handle type).handle? = some handle := rfl

@[simp] theorem isUnknown_retyped (type : TypeName) :
    (item.retyped type).isUnknown = item.isUnknown := rfl

@[simp] theorem handle?_retyped (type : TypeName) :
    (item.retyped type).handle? = item.handle? := rfl

end TypedValue

end Callsite
