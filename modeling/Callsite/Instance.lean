import Callsite.TypeName
import Callsite.Value

/-!
# Objects in a heap

What a heap slot can hold.  A slot of an object that was replaced by another one
forwards to the slot of its replacement.
-/

namespace Callsite

/-- The content of a heap slot. -/
inductive Instance where
  /-- An object whose constructor has not run. -/
  | uninitialized (type : TypeName)
  /-- A constructed object of which only the class is known. -/
  | object (type : TypeName)
  /-- A character string. -/
  | string (text : String)
  /-- A character buffer and its present content. -/
  | builder (text : String)
  /-- The class object of a type. -/
  | classObject (type : TypeName)
  /-- The object lives in another slot. -/
  | forwarded (target : Handle)
  deriving DecidableEq, Inhabited

namespace Instance

/-- The runtime type of an object; a forwarding slot has none. -/
def type? : Instance → Option TypeName
  | .uninitialized type => some type
  | .object type => some type
  | .string _ => some TypeName.string
  | .builder _ => some TypeName.stringBuilder
  | .classObject _ => some TypeName.classObject
  | .forwarded _ => none

/-- Whether the constructor of the object has not run. -/
def isUninitialized : Instance → Bool
  | .uninitialized _ => true
  | _ => false

/-- Whether the slot holds an object, as opposed to forwarding to one. -/
def isLive : Instance → Bool
  | .forwarded _ => false
  | _ => true

/-- The text of a slot's content. -/
def text : Instance → String
  | .uninitialized type => "uninitialized " ++ type
  | .object type => type
  | .string text => "\"" ++ text ++ "\""
  | .builder text => "StringBuilder(\"" ++ text ++ "\")"
  | .classObject type => "class " ++ type
  | .forwarded target => "-> @" ++ Decimal.ofNat target

theorem isLive_iff {inst : Instance} :
    inst.isLive = true ↔ ∀ target, inst ≠ .forwarded target := by
  cases inst <;> simp [isLive]

end Instance

end Callsite
