/-!
# The four binary operators

The closed set of operators of a flat arithmetic expression.  Each operator has a written symbol, a
rank that says how tightly it binds, a neutral value that stands in for an over-limit operand, and the
floating-point operation that it denotes.

* `Operator.ofSymbol?` reads a symbol; it is the exact inverse of `Operator.symbol`.
* `rankOf` extends the rank to every text, with `0` for a text that is no operator.
-/

namespace FlatArith

/-- A binary arithmetic operator. -/
inductive Operator where
  | plus
  | minus
  | times
  | divide
  deriving DecidableEq, Repr

namespace Operator

/-- Every operator, in the order of the symbol table. -/
def all : List Operator :=
  [plus, minus, times, divide]

/-- The written form of an operator. -/
def symbol : Operator → String
  | plus => "+"
  | minus => "-"
  | times => "*"
  | divide => "/"

/-- The operator that a text spells.  The whole text has to be the symbol: blanks around it, doubled
symbols and look-alike characters spell no operator. -/
def ofSymbol? : String → Option Operator
  | "+" => some plus
  | "-" => some minus
  | "*" => some times
  | "/" => some divide
  | _ => none

/-- How tightly an operator binds: the multiplicative operators above the additive ones. -/
def rank : Operator → Nat
  | plus | minus => 1
  | times | divide => 2

/-- The value that replaces an operand beyond the saturation limit: the identity element of the
operator's kind. -/
def neutral : Operator → Float
  | plus | minus => 0
  | times | divide => 1

/-- The binary64 operation that an operator denotes, without saturation or checks. -/
def compute : Operator → Float → Float → Float
  | plus, left, right => left + right
  | minus, left, right => left - right
  | times, left, right => left * right
  | divide, left, right => left / right

@[simp] theorem mem_all (op : Operator) : op ∈ all := by
  cases op <;> simp [all]

@[simp] theorem ofSymbol?_symbol (op : Operator) : ofSymbol? op.symbol = some op := by
  cases op <;> rfl

/-- A text spells an operator exactly when it is the operator's symbol. -/
theorem ofSymbol?_eq_some_iff {text : String} {op : Operator} :
    ofSymbol? text = some op ↔ text = op.symbol := by
  constructor
  · intro h
    unfold ofSymbol? at h
    split at h <;> cases h <;> rfl
  · rintro rfl
    exact ofSymbol?_symbol op

theorem rank_pos (op : Operator) : 0 < op.rank := by
  cases op <;> decide

end Operator

/-- The rank of any text: that of the operator it spells, or `0`, below every operator. -/
def rankOf (text : String) : Nat :=
  ((Operator.ofSymbol? text).map Operator.rank).getD 0

@[simp] theorem rankOf_symbol (op : Operator) : rankOf op.symbol = op.rank := by
  simp [rankOf]

end FlatArith
