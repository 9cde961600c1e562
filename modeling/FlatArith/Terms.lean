import FlatArith.Calculator
import FlatArith.Chain

/-!
# Sums of terms

The grammar of a flat expression has two levels: a sum is a chain of terms joined by additive operators,
and a term is a chain of numbers joined by multiplicative ones.  `Chain.terms` cuts a chain at its
additive operators, and `Calculator.evaluateTerms` evaluates what results: first every term from left to
right, then the sum of their values from left to right.

This is the value that an expression ought to have by its grammar, said without stacks.
-/

namespace FlatArith

/-- The operator joins terms and not the factors of one term. -/
def Operator.isAdditive : Operator → Bool
  | plus | minus => true
  | times | divide => false

/-- The operators that join terms are those of the lowest rank. -/
theorem Operator.isAdditive_eq_rank (op : Operator) : op.isAdditive = (op.rank == 1) := by
  cases op <;> rfl

namespace Chain

/-- Cuts links at the additive operators: the links of the term under way, then the later terms with
the operators in front of them. -/
def cutLinks {α : Type} : List (Operator × α) → List (Operator × α) × List (Operator × Chain α)
  | [] => ([], [])
  | (op, a) :: rest =>
      let (links, later) := cutLinks rest
      if op.isAdditive then ([], (op, ⟨a, links⟩) :: later)
      else ((op, a) :: links, later)

/-- The terms of a chain, joined by its additive operators. -/
def terms {α : Type} (chain : Chain α) : Chain (Chain α) :=
  let (links, later) := cutLinks chain.tail
  ⟨⟨chain.head, links⟩, later⟩

/-- The additive operators of a chain join its terms. -/
theorem isAdditive_of_mem_terms {α : Type} {chain : Chain α} {link : Operator × Chain α}
    (h : link ∈ chain.terms.tail) : link.1.isAdditive = true := by
  have cut : ∀ links : List (Operator × α), ∀ link ∈ (cutLinks links).2,
      link.1.isAdditive = true := by
    intro links
    induction links with
    | nil => intro link hLink; cases hLink
    | cons first rest ih =>
        intro link hLink
        by_cases hFirst : first.1.isAdditive = true
        · simp only [cutLinks, hFirst, if_true, List.mem_cons] at hLink
          rcases hLink with rfl | hLater
          · exact hFirst
          · exact ih link hLater
        · simp only [cutLinks, hFirst] at hLink
          exact ih link hLink
  exact cut chain.tail link h

/-- The value of a chain of numbers in plain binary64 arithmetic, without saturation or checks. -/
def plainValue (chain : Chain Float) : Float :=
  (chain.terms.map (fold Operator.compute)).fold Operator.compute

end Chain

namespace Calculator

/-- The value of a chain of numbers by its terms. -/
def evaluateTerms (c : Calculator) (chain : Chain Float) : Outcome := do
  let values ← chain.terms.mapM (Chain.foldM c.apply)
  values.foldM c.apply

end Calculator

end FlatArith
