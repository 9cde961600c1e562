import FlatArith.Number
import FlatArith.Operator
import FlatArith.Text.Quoted

/-!
# Raw arguments

An argument is what a caller hands over before any check: a number or a text, in any position.  Whether
it may stand where it stands is decided by validation; here it only says what it could be used as.

Equality is that of the payloads: floats are compared as numbers, so zero equals negative zero and a
float that is not a number differs from itself, while texts are compared character by character.
-/

namespace FlatArith

/-- An unchecked argument. -/
inductive Argument where
  | number (n : Float)
  | text (s : String)
  deriving BEq, Repr

namespace Argument

/-- The argument that spells an operator. -/
def ofOperator (op : Operator) : Argument :=
  text op.symbol

/-- The number that an argument holds, if it can serve as an operand. -/
def number? : Argument → Option Float
  | number n => if n.isNaN then none else some n
  | text _ => none

/-- The operator that an argument spells. -/
def operator? : Argument → Option Operator
  | number _ => none
  | text s => Operator.ofSymbol? s

/-- The name of the kind of an argument. -/
def kindName : Argument → String
  | number _ => "number"
  | text _ => "string"

/-- How an argument is shown: a number by its decimal text, a text between quotes. -/
def shown : Argument → String
  | number n => Number.text n
  | text s => String.ofList (Text.quote s.toList)

/-- How an argument is named in a report: the name of its kind, then how it is shown. -/
def described (argument : Argument) : String :=
  argument.kindName ++ " " ++ argument.shown

@[simp] theorem number?_text (s : String) : (text s).number? = none := rfl

@[simp] theorem operator?_number (n : Float) : (number n).operator? = none := rfl

theorem number?_number {n : Float} (h : n.isNaN = false) : (number n).number? = some n := by
  simp only [number?, h]
  rfl

/-- An argument holds a number exactly when it is that number and the number is usable. -/
theorem number?_eq_some_iff {argument : Argument} {n : Float} :
    argument.number? = some n ↔ argument = number n ∧ n.isNaN = false := by
  cases argument with
  | text s => simp
  | number m =>
      simp only [number?, number.injEq]
      split
      · next hNaN =>
          constructor
          · intro h; cases h
          · rintro ⟨rfl, h⟩; rw [hNaN] at h; cases h
      · next hNumber =>
          constructor
          · intro h; cases h; exact ⟨rfl, by simpa using hNumber⟩
          · rintro ⟨rfl, -⟩; rfl

/-- An argument spells an operator exactly when it is the text of its symbol. -/
theorem operator?_eq_some_iff {argument : Argument} {op : Operator} :
    argument.operator? = some op ↔ argument = ofOperator op := by
  cases argument with
  | number n => simp [ofOperator]
  | text s => simp [operator?, ofOperator, Operator.ofSymbol?_eq_some_iff]

end Argument

end FlatArith
