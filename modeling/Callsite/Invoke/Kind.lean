/-!
# Kinds of invoke instructions

There are five families of invoke instructions, each with a form that lists its
registers and a form that gives a range.
-/

namespace Callsite

/-- How an invoke instruction finds its target. -/
inductive InvokeFamily where
  | virtual
  | super
  | direct
  | static
  | interface
  deriving DecidableEq, Repr

/-- An invoke instruction without its operands. -/
structure InvokeKind where
  family : InvokeFamily
  /-- Whether the registers are given as a range. -/
  isRange : Bool := false
  deriving DecidableEq, Repr

namespace InvokeFamily

/-- The mnemonic of the form that lists its registers. -/
def text : InvokeFamily → String
  | .virtual => "invoke-virtual"
  | .super => "invoke-super"
  | .direct => "invoke-direct"
  | .static => "invoke-static"
  | .interface => "invoke-interface"

/-- All families. -/
def all : List InvokeFamily := [virtual, super, direct, static, interface]

end InvokeFamily

namespace InvokeKind

/-- Whether the target depends on the runtime type of the receiver. -/
def isVirtual (kind : InvokeKind) : Bool := kind.family == .virtual

/-- The mnemonic of an instruction. -/
def text (kind : InvokeKind) : String :=
  if kind.isRange then kind.family.text ++ "/range" else kind.family.text

/-- All kinds. -/
def all : List InvokeKind :=
  InvokeFamily.all.flatMap fun family => [⟨family, false⟩, ⟨family, true⟩]

/-- The kind that a mnemonic names. -/
def ofText? (mnemonic : String) : Option InvokeKind :=
  all.find? fun kind => kind.text == mnemonic

@[simp] theorem ofText?_text (kind : InvokeKind) : ofText? kind.text = some kind := by
  obtain ⟨family, isRange⟩ := kind
  cases family <;> cases isRange <;> decide +kernel

end InvokeKind

end Callsite
