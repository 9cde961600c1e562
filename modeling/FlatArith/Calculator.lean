import FlatArith.Failure

/-!
# Calculators and the application of one operator

A calculator is its saturation limit.  Before an operator is applied, an operand beyond the limit is
replaced by the operator's neutral value.  The two sides differ: the left operand is replaced only when
it is greater than the limit, the right one when its absolute value is.  Both comparisons are strict, and
a limit that is not a number replaces nothing.

A division looks at its right operand before any replacement and fails if that operand is zero.
-/

namespace FlatArith

/-- The saturation limit of a calculator that nobody has set up. -/
def standardLimit : Float := 1000

/-- An evaluator with its saturation limit. -/
structure Calculator where
  limit : Float := standardLimit
  deriving BEq, Repr

namespace Calculator

/-- The calculator with the standard limit. -/
def standard : Calculator := {}

instance : Inhabited Calculator := ⟨standard⟩

/-- A left operand, or the neutral value in its place. -/
def saturateLeft (c : Calculator) (op : Operator) (left : Float) : Float :=
  if left > c.limit then op.neutral else left

/-- A right operand, or the neutral value in its place. -/
def saturateRight (c : Calculator) (op : Operator) (right : Float) : Float :=
  if right.abs > c.limit then op.neutral else right

/-- The operator is a division and the right operand is zero, of either sign. -/
def dividesByZero (op : Operator) (right : Float) : Bool :=
  op == .divide && right == 0

/-- Applies an operator to two operands. -/
def apply (c : Calculator) (op : Operator) (left right : Float) : Outcome :=
  if dividesByZero op right then .error .divisionByZero
  else .ok (op.compute (c.saturateLeft op left) (c.saturateRight op right))

theorem apply_of_dividesByZero {c : Calculator} {op : Operator} {left right : Float}
    (h : dividesByZero op right = true) : c.apply op left right = .error .divisionByZero := by
  simp [apply, h]

end Calculator

end FlatArith
