import FlatArith.Machine
import FlatArith.Terms

/-!
# Expression trees

The tree of an expression has its numbers at the leaves and its operators at the inner nodes.
Multiplicative operators stand below additive ones, and operators of one rank lean to the left.

`Tree.nodes` lists the inner nodes in post-order, the order in which their operands become known, and
`Calculator.reductionsOf` gives the reductions that evaluating the nodes in this order makes before the
first of them fails.
-/

namespace FlatArith

/-- An arithmetic expression as a tree. -/
inductive Tree where
  | leaf (n : Float)
  | node (op : Operator) (left right : Tree)
  deriving BEq, Repr

namespace Tree

/-- The tree of a chain of numbers. -/
def ofChain (chain : Chain Float) : Tree :=
  ((chain.map leaf).terms.map (Chain.fold node)).fold node

/-- The inner nodes in post-order: those of the left subtree, those of the right one, the node itself. -/
def nodes : Tree → List (Operator × Tree × Tree)
  | leaf _ => []
  | node op left right => left.nodes ++ right.nodes ++ [(op, left, right)]

end Tree

namespace Calculator

/-- The value of a tree. -/
def valueOf (c : Calculator) : Tree → Outcome
  | .leaf n => .ok n
  | .node op left right => do
      let leftValue ← c.valueOf left
      let rightValue ← c.valueOf right
      c.apply op leftValue rightValue

/-- The reduction at an inner node, if its operands have values and its operator can be applied. -/
def reductionAt? (c : Calculator) (node : Operator × Tree × Tree) : Option Reduction :=
  match c.valueOf node.2.1, c.valueOf node.2.2 with
  | .ok left, .ok right =>
      match c.apply node.1 left right with
      | .ok result => some ⟨node.1, left, right, result⟩
      | .error _ => none
  | _, _ => none

/-- The reductions at the inner nodes in post-order, up to the first node that has none. -/
def reductionsOf (c : Calculator) (tree : Tree) : List Reduction :=
  ((tree.nodes.map c.reductionAt?).takeWhile Option.isSome).filterMap id

end Calculator

end FlatArith
