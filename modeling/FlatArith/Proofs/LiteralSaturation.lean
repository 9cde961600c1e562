import FlatArith.Proofs.PostOrder

/-!
# Saturating the literals beforehand

Every number of an expression is an operand of one operator, its binder: of a multiplicative
operator beside it if there is one, of the operator before it rather than of the one behind it.
`Calculator.saturateLiterals` replaces the numbers beyond the limit by the neutral values of their
binders, and this does not change the outcome of the evaluation (`evaluate_saturateLiterals`).

In the tree of an expression the binder of a number is the operator right above it.  So the theorem
falls into two parts: to replace the leaves of a tree keeps its value (`valueOf_saturate`), and the
tokens of the new tree are those that the replacement by positions gives (`saturateFrom_tokens`).
-/

namespace FlatArith

/-- The sides of an operator. -/
inductive Side where
  | left
  | right
  deriving DecidableEq, Repr

/-- The operator that a number is an operand of, and the side on which it is. -/
structure Binder where
  side : Side
  operator : Operator
  deriving DecidableEq, Repr

/-- The binder of a number between two operators, either of which may be missing.  A multiplicative
operator comes before an additive one, and the operator before the number comes before the one
behind it. -/
def Binder.between? (before after : Option Operator) : Option Binder :=
  (before.filter fun op => !op.isAdditive).map (⟨.right, ·⟩) <|>
    (after.filter fun op => !op.isAdditive).map (⟨.left, ·⟩) <|>
    before.map (⟨.right, ·⟩) <|>
    after.map (⟨.left, ·⟩)

namespace Binder

/-- An operator binds the number before it more tightly than one of lower rank binds it from the
left. -/
theorem between?_of_lt {before : Option Operator} {op : Operator}
    (h : ∀ last ∈ before, last.rank < op.rank) : between? before (some op) = some ⟨.left, op⟩ := by
  cases before with
  | none => cases op <;> rfl
  | some last =>
      have hRank := h last rfl
      revert hRank
      cases last <;> cases op <;> decide

/-- An operator binds the number behind it at least as tightly as one of no higher rank binds it
from the right. -/
theorem between?_of_le {after : Option Operator} {op : Operator}
    (h : ∀ next ∈ after, next.rank ≤ op.rank) : between? (some op) after = some ⟨.right, op⟩ := by
  cases after with
  | none => cases op <;> rfl
  | some next =>
      have hRank := h next rfl
      revert hRank
      cases next <;> cases op <;> decide

theorem exists_between? {before after : Option Operator}
    (h : before.isSome = true ∨ after.isSome = true) :
    ∃ binder, between? before after = some binder := by
  cases before with
  | none =>
      cases after with
      | none => simp at h
      | some next => exact ⟨_, between?_of_lt (by simp)⟩
  | some last =>
      cases after with
      | none => exact ⟨_, between?_of_le (by simp)⟩
      | some next =>
          by_cases hRank : last.rank < next.rank
          · exact ⟨_, between?_of_lt (by simpa using hRank)⟩
          · exact ⟨_, between?_of_le (by simpa using hRank)⟩

end Binder

namespace Token

/-- The operator that a token is. -/
def operator? : Token → Option Operator
  | number _ => none
  | operator op => some op

/-- The operator at a position. -/
def operatorAt? (tokens : List Token) (position : Nat) : Option Operator :=
  tokens[position]?.bind operator?

/-- The operator right before a position. -/
def operatorBefore? (tokens : List Token) : Nat → Option Operator
  | 0 => none
  | position + 1 => operatorAt? tokens position

/-- The binder of a number at a position. -/
def binderAt? (tokens : List Token) (position : Nat) : Option Binder :=
  Binder.between? (operatorBefore? tokens position) (operatorAt? tokens (position + 1))

/-- In a well-formed list the odd positions hold operators. -/
theorem isSome_operatorAt? {tokens : List Token} (h : WellFormed tokens) {position : Nat}
    (hOdd : position % 2 = 1) (hInside : position < tokens.length) :
    (operatorAt? tokens position).isSome = true := by
  have hToken : tokens[position]? = some tokens[position] := List.getElem?_eq_getElem hInside
  have hPlaced := ((wellFormed_iff tokens).1 h).2 position
  have hSlot : Slot.operand.after position = .operator := if_neg (by omega)
  unfold operatorAt?
  rw [hToken]
  cases hNumber : tokens[position] with
  | operator op => rfl
  | number n =>
      refine absurd ⟨_, hToken, ?_⟩ hPlaced
      rw [hNumber, hSlot]
      exact id

/-- In a well-formed list of at least three tokens every number has a binder. -/
theorem exists_binderAt? {tokens : List Token} (h : WellFormed tokens) (hLength : 3 ≤ tokens.length)
    {position : Nat} {n : Float} (hNumber : tokens[position]? = some (.number n)) :
    ∃ binder, binderAt? tokens position = some binder := by
  obtain ⟨hOdd, hPlaced⟩ := (wellFormed_iff tokens).1 h
  have hInside := (List.getElem?_eq_some_iff.1 hNumber).1
  have hEven : position % 2 = 0 := by
    by_contra hNot
    refine hPlaced position ⟨_, hNumber, ?_⟩
    rw [Slot.after, if_neg hNot]
    exact id
  refine Binder.exists_between? ?_
  by_cases hLast : position + 1 < tokens.length
  · exact .inr (isSome_operatorAt? h (by omega) hLast)
  · -- The last position of the list has one before it.
    cases position with
    | zero => omega
    | succ position => exact .inl (isSome_operatorAt? h (by omega) (by omega))

end Token

namespace Calculator

variable (c : Calculator)

/-- A number with a binder, or the binder's neutral value in its place.  On the left of its binder a
number is replaced that is greater than the limit, on the right one whose absolute value is.  A zero
divisor stays. -/
def saturateLiteral (c : Calculator) (binder : Binder) (n : Float) : Float :=
  match binder.side with
  | .left => if n > c.limit then binder.operator.neutral else n
  | .right =>
      if n.abs > c.limit ∧ ¬ (binder.operator = .divide ∧ IsZero n) then binder.operator.neutral
      else n

/-- A token whose number, if it is one, has the given binder, with the number saturated. -/
def saturateToken (c : Calculator) (binder : Option Binder) : Token → Token
  | .number n => .number (binder.elim n fun binder => c.saturateLiteral binder n)
  | .operator op => .operator op

/-- The tokens with all numbers saturated at once. -/
def saturateLiterals (c : Calculator) (tokens : List Token) : List Token :=
  tokens.mapIdx fun position token => c.saturateToken (Token.binderAt? tokens position) token

section Apply

/-- A literal on the left is replaced as an operator replaces its left operand. -/
theorem saturateLiteral_left (op : Operator) (n : Float) :
    c.saturateLiteral ⟨.left, op⟩ n = c.saturateLeft op n :=
  rfl

/-- A literal on the right that is no zero divisor is replaced as an operator replaces its right
operand. -/
theorem saturateLiteral_right (op : Operator) (n : Float) :
    c.saturateLiteral ⟨.right, op⟩ n =
      if dividesByZero op n then n else c.saturateRight op n := by
  simp only [saturateLiteral, saturateRight, dividesByZero_iff]
  by_cases hZero : op = .divide ∧ IsZero n
  · simp only [hZero, and_self, not_true_eq_false, and_false, if_false, if_true]
  · simp only [hZero, not_false_eq_true, and_true, if_false]

/-- Replacing what is beyond a bound is done with after one time, even if what comes in its place is
beyond the bound as well. -/
theorem replace_replace (beyond : Float → Prop) [DecidablePred beyond] (neutral n : Float) :
    (if beyond (if beyond n then neutral else n) then neutral
      else if beyond n then neutral else n) = if beyond n then neutral else n := by
  by_cases hBeyond : beyond n
  · simp only [if_pos hBeyond, ite_self]
  · simp only [if_neg hBeyond]

theorem saturateLeft_saturateLeft (op : Operator) (n : Float) :
    c.saturateLeft op (c.saturateLeft op n) = c.saturateLeft op n :=
  replace_replace (fun m => m > c.limit) op.neutral n

theorem saturateRight_saturateRight (op : Operator) (n : Float) :
    c.saturateRight op (c.saturateRight op n) = c.saturateRight op n :=
  replace_replace (fun m => m.abs > c.limit) op.neutral n

/-- A neutral value is no zero divisor. -/
theorem not_dividesByZero_neutral (op : Operator) : dividesByZero op op.neutral = false := by
  cases op <;> decide

theorem not_dividesByZero_saturateRight {op : Operator} {n : Float}
    (h : dividesByZero op n = false) : dividesByZero op (c.saturateRight op n) = false := by
  unfold saturateRight
  split
  · exact not_dividesByZero_neutral op
  · exact h

/-- An operator has the same outcome for a literal on its left and for the saturated literal. -/
theorem apply_saturateLiteral_left (op : Operator) (left right : Float) :
    c.apply op (c.saturateLiteral ⟨.left, op⟩ left) right = c.apply op left right := by
  simp only [apply, saturateLiteral_left, saturateLeft_saturateLeft]

/-- An operator has the same outcome for a literal on its right and for the saturated literal.  It
sees the zero divisors before it saturates, and they are not replaced. -/
theorem apply_saturateLiteral_right (op : Operator) (left right : Float) :
    c.apply op left (c.saturateLiteral ⟨.right, op⟩ right) = c.apply op left right := by
  rw [saturateLiteral_right]
  cases hZero : dividesByZero op right with
  | true => simp only [if_true]
  | false =>
      have hSaturated := c.not_dividesByZero_saturateRight hZero
      simp only [apply, hZero, Bool.false_eq_true, if_false, hSaturated,
        saturateRight_saturateRight]

end Apply

end Calculator

namespace Tree

/-- The tree with its numbers saturated by the operators right above them.  The binder is that of the
tree itself, for the case that it is a number. -/
def saturate (c : Calculator) : Option Binder → Tree → Tree
  | binder, leaf n => leaf (binder.elim n fun binder => c.saturateLiteral binder n)
  | _, node op left right =>
      node op (saturate c (some ⟨.left, op⟩) left) (saturate c (some ⟨.right, op⟩) right)

variable (c : Calculator)

@[simp] theorem rank_saturate (binder : Option Binder) (tree : Tree) :
    (saturate c binder tree).rank = tree.rank := by
  cases tree <;> rfl

theorem Nested.saturate {tree : Tree} (h : tree.Nested) (binder : Option Binder) :
    (Tree.saturate c binder tree).Nested := by
  induction tree generalizing binder with
  | leaf n => trivial
  | node op left right ihLeft ihRight =>
      obtain ⟨⟨hLeft, hLeftNested⟩, hRight, hRightNested⟩ := h
      refine ⟨⟨?_, ihLeft hLeftNested _⟩, ?_, ihRight hRightNested _⟩
      · simpa using hLeft
      · simpa using hRight

/-- What makes no difference between a literal and the saturated literal makes none between a tree
and the saturated tree. -/
theorem valueOf_saturate_bind (tree : Tree) (binder : Option Binder) (use : Float → Outcome)
    (h : ∀ own ∈ binder, ∀ n, use (c.saturateLiteral own n) = use n) :
    c.valueOf (saturate c binder tree) >>= use = c.valueOf tree >>= use := by
  induction tree generalizing binder use with
  | leaf n =>
      cases binder with
      | none => rfl
      | some own => exact h own rfl n
  | node op left right ihLeft ihRight =>
      have hRight : ∀ leftValue,
          c.valueOf (saturate c (some ⟨.right, op⟩) right) >>= c.apply op leftValue =
            c.valueOf right >>= c.apply op leftValue := by
        intro leftValue
        refine ihRight _ _ fun own hOwn n => ?_
        cases hOwn
        exact c.apply_saturateLiteral_right op leftValue n
      have hLeft := ihLeft (some ⟨.left, op⟩)
        (fun leftValue => c.valueOf right >>= c.apply op leftValue) fun own hOwn n => by
          cases hOwn
          exact bind_congr fun rightValue => c.apply_saturateLiteral_left op n rightValue
      simp only [saturate, Calculator.valueOf, hRight, hLeft]

/-- Saturating the numbers of a tree keeps its value. -/
theorem valueOf_saturate (tree : Tree) : c.valueOf (saturate c none tree) = c.valueOf tree := by
  have hValue := valueOf_saturate_bind c tree none pure fun own hOwn => by cases hOwn
  simpa using hValue

end Tree

namespace Calculator

variable (c : Calculator)

/-- Saturates the numbers of tokens that stand behind an operator, or at the start. -/
def saturateFrom (c : Calculator) : Option Operator → List Token → List Token
  | _, [] => []
  | before, token :: rest =>
      c.saturateToken (Binder.between? before (Token.operatorAt? rest 0)) token ::
        c.saturateFrom token.operator? rest

theorem getElem?_saturateFrom (before : Option Operator) (tokens : List Token) (position : Nat) :
    (c.saturateFrom before tokens)[position]? = tokens[position]?.map
      (c.saturateToken (Binder.between?
        (if position = 0 then before else Token.operatorBefore? tokens position)
        (Token.operatorAt? tokens (position + 1)))) := by
  induction tokens generalizing before position with
  | nil => rfl
  | cons token rest ih =>
      cases position with
      | zero => rfl
      | succ position =>
          have hRest := ih token.operator? position
          -- What stands before the position is the first token, or is before it in the rest too.
          cases position <;>
            simpa [saturateFrom, Token.operatorBefore?, Token.operatorAt?] using hRest

/-- Saturating by positions is saturating in one pass over the tokens. -/
theorem saturateLiterals_eq_saturateFrom (tokens : List Token) :
    c.saturateLiterals tokens = c.saturateFrom none tokens := by
  refine List.ext_getElem? fun position => ?_
  rw [getElem?_saturateFrom, saturateLiterals, List.getElem?_mapIdx]
  cases position <;> rfl

/-- The pass over the tokens of a nested tree saturates the tree, if the operators around the tree
bind no number in it. -/
theorem saturateFrom_tokens {tree : Tree} (h : tree.Nested) (before : Option Operator)
    (tail : List Token) (hBefore : ∀ last ∈ before, last.rank < tree.rank)
    (hAfter : ∀ next ∈ Token.operatorAt? tail 0, next.rank ≤ tree.rank) :
    c.saturateFrom before (tree.tokens ++ tail) =
      (Tree.saturate c (Binder.between? before (Token.operatorAt? tail 0)) tree).tokens ++
        c.saturateFrom none tail := by
  induction tree generalizing before tail with
  | leaf n => rfl
  | node op left right ihLeft ihRight =>
      obtain ⟨⟨hLeft, hLeftNested⟩, hRight, hRightNested⟩ := h
      have hLeftBinder := Binder.between?_of_lt hBefore
      have hRightBinder := Binder.between?_of_le hAfter
      have hLeftTokens := ihLeft hLeftNested before (.operator op :: (right.tokens ++ tail))
        (fun last hLast => Nat.lt_of_lt_of_le (hBefore last hLast) hLeft)
        (fun next hNext => by
          cases hNext
          exact hLeft)
      have hRightTokens := ihRight hRightNested (some op) tail
        (fun last hLast => by
          cases hLast
          exact hRight)
        (fun next hNext => Nat.le_of_lt (Nat.lt_of_le_of_lt (hAfter next hNext) hRight))
      have hOperator : Token.operatorAt? (.operator op :: (right.tokens ++ tail)) 0 = some op := rfl
      rw [hOperator, hLeftBinder] at hLeftTokens
      rw [hRightBinder] at hRightTokens
      simp only [Tree.tokens, Tree.saturate, List.append_assoc, List.cons_append, hLeftTokens]
      simp only [saturateFrom, saturateToken, Token.operator?, hRightTokens]

/-- The literals of a well-formed list may be saturated before the evaluation.  If the list has at
least three tokens, every number in it has a binder and is replaced as the binder says. -/
theorem evaluate_saturateLiterals (c : Calculator) {tokens : List Token}
    (h : Token.WellFormed tokens) :
    c.evaluate (c.saturateLiterals tokens) = c.evaluate tokens ∧
      (3 ≤ tokens.length → ∀ position n, tokens[position]? = some (.number n) →
        ∃ binder, Token.binderAt? tokens position = some binder ∧
          (c.saturateLiterals tokens)[position]? =
            some (.number (c.saturateLiteral binder n))) := by
  refine ⟨?_, fun hLength position n hNumber => ?_⟩
  · obtain ⟨tree, hNested, rfl⟩ := Tree.exists_isParse_iff.2 h
    have hTokens := c.saturateFrom_tokens hNested none [] (fun last hLast => by cases hLast)
      (fun next hNext => by cases hNext)
    have hNone : Binder.between? none (Token.operatorAt? [] 0) = none := rfl
    rw [List.append_nil, hNone] at hTokens
    simp only [saturateFrom, List.append_nil] at hTokens
    rw [c.saturateLiterals_eq_saturateFrom, hTokens, c.evaluate_tree (hNested.saturate c none),
      c.evaluate_tree hNested, Tree.valueOf_saturate]
  · obtain ⟨binder, hBinder⟩ := Token.exists_binderAt? h hLength hNumber
    refine ⟨binder, hBinder, ?_⟩
    rw [saturateLiterals, List.getElem?_mapIdx, hNumber, hBinder]
    rfl

/-- A product whose left factor is beyond the limit, less a number beyond it. -/
theorem evaluate_saturateLiterals_difference :
    Token.WellFormed [.number 2000, .operator .times, .number 3, .operator .minus, .number (-5000)] ∧
      standard.saturateLiterals
          [.number 2000, .operator .times, .number 3, .operator .minus, .number (-5000)] =
        [.number 1, .operator .times, .number 3, .operator .minus, .number 0] ∧
      standard.evaluate [.number 1, .operator .times, .number 3, .operator .minus, .number 0] =
        standard.evaluate
          [.number 2000, .operator .times, .number 3, .operator .minus, .number (-5000)] := by
  have hWellFormed : Token.WellFormed
      [.number 2000, .operator .times, .number 3, .operator .minus, .number (-5000)] :=
    Chain.wellFormed_iff_exists_tokens.2 ⟨⟨2000, [(.times, 3), (.minus, -5000)]⟩, rfl⟩
  have hFirst : standard.saturateLiteral ⟨.left, .times⟩ 2000 = 1 := by decide +kernel
  have hSecond : standard.saturateLiteral ⟨.right, .times⟩ 3 = 3 := by decide +kernel
  have hThird : standard.saturateLiteral ⟨.right, .minus⟩ (-5000) = 0 := by decide +kernel
  have hSaturated : standard.saturateLiterals
      [.number 2000, .operator .times, .number 3, .operator .minus, .number (-5000)] =
        [.number 1, .operator .times, .number 3, .operator .minus, .number 0] := by
    show [Token.number (standard.saturateLiteral ⟨.left, .times⟩ 2000), .operator .times,
      .number (standard.saturateLiteral ⟨.right, .times⟩ 3), .operator .minus,
      .number (standard.saturateLiteral ⟨.right, .minus⟩ (-5000))] = _
    rw [hFirst, hSecond, hThird]
  refine ⟨hWellFormed, hSaturated, ?_⟩
  rw [← hSaturated]
  exact (evaluate_saturateLiterals standard hWellFormed).1

end Calculator

end FlatArith
