import FlatArith.Argument

/-!
# Failures

Why a list of arguments has no value.  A failure carries what its message shows; `message` holds the
wording of every one.  Positions count from zero.
-/

namespace FlatArith

/-- Why an evaluation has no result. -/
inductive Failure where
  /-- The list has a length that no expression has, or its tokens do not alternate. -/
  | malformed (length : Nat)
  /-- The argument in an operand slot is no usable number. -/
  | notNumber (position : Nat) (found : String)
  /-- The argument in an operator slot spells no operator. -/
  | notOperator (position : Nat) (found : String)
  /-- The right operand of a division is zero. -/
  | divisionByZero
  deriving DecidableEq, Repr

/-- A cause of failure without its details. -/
inductive Failure.Cause where
  | malformed
  | notNumber
  | notOperator
  | divisionByZero
  deriving DecidableEq, Repr

namespace Failure

/-- The cause of a failure. -/
def cause : Failure → Cause
  | .malformed _ => .malformed
  | .notNumber _ _ => .notNumber
  | .notOperator _ _ => .notOperator
  | .divisionByZero => .divisionByZero

/-- The failure of an argument in an operand slot. -/
def badOperand (position : Nat) (argument : Argument) : Failure :=
  notNumber position argument.described

/-- The failure of an argument in an operator slot. -/
def badOperator (position : Nat) (argument : Argument) : Failure :=
  notOperator position argument.described

/-- The text of a failure. -/
def message : Failure → String
  | .malformed length =>
      "invalid input: expected an odd number of at least 3 arguments, got " ++ toString length
  | .notNumber position found =>
      "invalid input type at position " ++ toString position ++ ": expected a number, got " ++ found
  | .notOperator position found =>
      "invalid operator at position " ++ toString position ++ ": " ++ found
  | .divisionByZero => "division by zero"

end Failure

/-- The result of an evaluation: a number, or the reason why there is none. -/
abbrev Outcome := Except Failure Float

instance : DecidableEq Outcome
  | .ok a, .ok b => decidable_of_iff (a = b) (by simp)
  | .error a, .error b => decidable_of_iff (a = b) (by simp)
  | .ok _, .error _ => isFalse (by simp)
  | .error _, .ok _ => isFalse (by simp)

end FlatArith
