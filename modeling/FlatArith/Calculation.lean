import FlatArith.Log
import FlatArith.Validation

/-!
# Calculations and their logs

A calculation validates its arguments and evaluates the tokens.  Both entry points, from arguments and
from tokens, are given with their logs; the outcome does not depend on whether anybody reads the log.

`calculate`, `evaluate` and `applyOperator` are the operations for a caller who sets up no calculator; they
use the standard one.
-/

namespace FlatArith

namespace Calculator

/-- Evaluates tokens and reports every reduction. -/
def evaluateLogged (c : Calculator) (tokens : List Token) : Logged :=
  let run := c.runTokens tokens
  Logged.within .evaluation tokens.length
    { log := run.reductions.map .reduced, outcome := run.outcome }

/-- Validates arguments, evaluates their tokens, and reports a rejection or the result. -/
def calculateLogged (c : Calculator) (arguments : List Argument) : Logged :=
  Logged.within .calculation arguments.length <|
    match validate arguments with
    | .error failure => { log := [.rejected failure], outcome := .error failure }
    | .ok tokens =>
        let inner := c.evaluateLogged tokens
        match inner.outcome with
        | .error _ => inner
        | .ok result => { inner with log := inner.log ++ [.evaluated result] }

/-- The value of a list of arguments. -/
def calculate (c : Calculator) (arguments : List Argument) : Outcome := do
  c.evaluate (← validate arguments)

@[simp] theorem outcome_evaluateLogged (c : Calculator) (tokens : List Token) :
    (c.evaluateLogged tokens).outcome = c.evaluate tokens := rfl

/-- Logging a calculation does not change its outcome. -/
@[simp] theorem outcome_calculateLogged (c : Calculator) (arguments : List Argument) :
    (c.calculateLogged arguments).outcome = c.calculate arguments := by
  simp only [calculateLogged, calculate, Logged.outcome_within]
  cases validate arguments with
  | error failure => rfl
  | ok tokens =>
      simp only [outcome_evaluateLogged, bind, Except.bind]
      cases h : c.evaluate tokens with
      | error failure => simpa using h
      | ok result => simp

end Calculator

/-- The value of a list of arguments, by the standard calculator. -/
def calculate (arguments : List Argument) : Outcome :=
  Calculator.standard.calculate arguments

/-- The value of a list of tokens, by the standard calculator. -/
def evaluate (tokens : List Token) : Outcome :=
  Calculator.standard.evaluate tokens

/-- Applies an operator to two operands, by the standard calculator. -/
def applyOperator (op : Operator) (left right : Float) : Outcome :=
  Calculator.standard.apply op left right

end FlatArith
