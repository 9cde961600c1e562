import FlatArith.Failure
import FlatArith.Token

/-!
# Validation

A list of arguments is an expression when its length is odd and at least three, every operand slot holds
a usable number, and every operator slot holds the symbol of an operator.  `validate` checks these in
that order, so a bad operand is reported before a bad operator wherever the two stand, and of two
offenders of one kind the first is reported.
-/

namespace FlatArith

/-- The length of the shortest expression: an operand, an operator and an operand. -/
def minArguments : Nat := 3

/-- The elements at the positions 0, 2, 4, and so on. -/
def everyOther {α : Type} : List α → List α
  | [] => []
  | [a] => [a]
  | a :: _ :: rest => a :: everyOther rest

/-- The elements of the operand slots. -/
def inOperandSlots {α : Type} (l : List α) : List α :=
  everyOther l

/-- The elements of the operator slots. -/
def inOperatorSlots {α : Type} (l : List α) : List α :=
  everyOther l.tail

/-- Whether every argument is a usable number. -/
def operandsAreValid (arguments : List Argument) : Bool :=
  arguments.all fun argument => argument.number?.isSome

/-- Whether every argument spells an operator. -/
def operatorsAreValid (arguments : List Argument) : Bool :=
  arguments.all fun argument => argument.operator?.isSome

/-- The number of an argument at a position, or the failure to report for it. -/
def readOperand (entry : Argument × Nat) : Except Failure Float :=
  match entry.1.number? with
  | some n => .ok n
  | none => .error (.badOperand entry.2 entry.1)

/-- The operator of an argument at a position, or the failure to report for it. -/
def readOperator (entry : Argument × Nat) : Except Failure Operator :=
  match entry.1.operator? with
  | some op => .ok op
  | none => .error (.badOperator entry.2 entry.1)

/-- Numbers and operators by turns, beginning with a number.  Numbers left over stand side by side, and
operators beyond the last number are dropped. -/
def interleave : List Float → List Operator → List Token
  | [], _ => []
  | n :: numbers, [] => .number n :: interleave numbers []
  | n :: numbers, op :: operators => .number n :: .operator op :: interleave numbers operators

/-- Checks a list of arguments and gives the tokens that it spells. -/
def validate (arguments : List Argument) : Except Failure (List Token) :=
  if arguments.length < minArguments ∨ arguments.length % 2 = 0 then
    .error (.malformed arguments.length)
  else do
    let operands ← (inOperandSlots arguments.zipIdx).mapM readOperand
    let operators ← (inOperatorSlots arguments.zipIdx).mapM readOperator
    return interleave operands operators

end FlatArith
