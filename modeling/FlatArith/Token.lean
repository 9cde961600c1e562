import FlatArith.Argument

/-!
# Tokens

A token is a checked element of an expression.  In a well-formed expression the tokens alternate
between numbers and operators and both ends are numbers.

The places of an expression alternate between two slots, starting with an operand slot; `Slot.Fits`
says which tokens belong where, and `WellFormed` that every token of a list fits its slot and that the
last slot is an operand slot.
-/

namespace FlatArith

/-- An element of an expression. -/
inductive Token where
  | number (n : Float)
  | operator (op : Operator)
  deriving BEq, Repr

/-- What a position of an expression is for. -/
inductive Slot where
  | operand
  | operator
  deriving DecidableEq, Repr

namespace Slot

/-- The slot after a slot. -/
def other : Slot → Slot
  | operand => operator
  | operator => operand

/-- The token belongs into the slot. -/
def Fits : Slot → Token → Prop
  | operand, .number _ => True
  | operator, .operator _ => True
  | _, _ => False

instance (slot : Slot) (token : Token) : Decidable (slot.Fits token) := by
  cases slot <;> cases token <;> simp only [Fits] <;> infer_instance

@[simp] theorem other_other (slot : Slot) : slot.other.other = slot := by
  cases slot <;> rfl

end Slot

namespace Token

/-- How a token is shown. -/
def shown : Token → String
  | number n => Number.text n
  | operator op => op.symbol

/-- The argument that a token is made from. -/
def toArgument : Token → Argument
  | number n => .number n
  | operator op => .ofOperator op

/-- Every token fits its slot, the first slot being the given one, and the list ends after an operand. -/
def WellFormedFrom : Slot → List Token → Prop
  | slot, [] => slot = .operator
  | slot, token :: rest => slot.Fits token ∧ WellFormedFrom slot.other rest

/-- The tokens alternate between numbers and operators, and both ends are numbers. -/
def WellFormed (tokens : List Token) : Prop :=
  WellFormedFrom .operand tokens

end Token

end FlatArith
