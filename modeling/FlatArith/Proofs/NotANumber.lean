import FlatArith.Proofs.Coherence
import FlatArith.Proofs.Moves
import FlatArith.Proofs.Positions
import FlatArith.Proofs.SpecialValues

/-!
# Values that are not numbers

A float that is not a number is lost at no application, and every operand of a run is consumed by one.
So a list of tokens that holds such a float has no number for its value (`evaluate_of_mem_isNaN`).

On numbers alone, and under a limit that infinity is beyond, a run makes such a float in one way only,
by a multiplication of negative infinity by a zero.  The zero is a right operand of a multiplication and
therefore one of the tokens (`exists_zero_factor_of_isNaN`).  Negative infinity need not be: a left
operand far below zero is not saturated, and the operations on it may overflow.
-/

namespace FlatArith

namespace Machine

/-- A float that is not a number is on the stack of operands or still to be read. -/
def HoldsNaN (m : Machine) : Prop :=
  (∃ n ∈ m.operands, n.isNaN = true) ∨ ∃ n, .number n ∈ m.pending ∧ n.isNaN = true

/-- Every operand on the stack is a number. -/
def HoldsNumbers (m : Machine) : Prop :=
  ∀ n ∈ m.operands, n.isNaN = false

end Machine

/-- The reduction multiplies negative infinity by a zero. -/
def Reduction.IsInfinityTimesZero (reduction : Reduction) : Prop :=
  reduction.operator = .times ∧ reduction.left = -Float.inf ∧ IsZero reduction.right

namespace Calculator

variable {c : Calculator} {length : Nat} {first m next : Machine} {reduction : Reduction}

section Kept

/-- A float that is read is not lost. -/
theorem holdsNaN_of_move_shift (h : m.HoldsNaN) (hMove : c.move length m = .shift next) :
    next.HoldsNaN := by
  rcases cases_move_shift hMove with ⟨read, rest, hPending, rfl⟩ | ⟨op, rest, hPending, rfl⟩
  · rcases h with ⟨n, hOperand, hNaN⟩ | ⟨n, hToken, hNaN⟩
    · exact .inl ⟨n, List.mem_cons_of_mem _ hOperand, hNaN⟩
    · rw [hPending] at hToken
      rcases List.mem_cons.1 hToken with hRead | hRest
      · cases hRead
        exact .inl ⟨read, List.mem_cons_self, hNaN⟩
      · exact .inr ⟨n, hRest, hNaN⟩
  · rcases h with ⟨n, hOperand, hNaN⟩ | ⟨n, hToken, hNaN⟩
    · exact .inl ⟨n, hOperand, hNaN⟩
    · rw [hPending] at hToken
      exact .inr ⟨n, List.mem_of_ne_of_mem Token.noConfusion hToken, hNaN⟩

/-- An operand that is consumed leaves a result that is not a number either. -/
theorem holdsNaN_of_move_reduce (h : m.HoldsNaN)
    (hMove : c.move length m = .reduce reduction next) : next.HoldsNaN := by
  obtain ⟨rest, below, -, hOperands, hApply, rfl⟩ := of_move_reduce hMove
  rcases h with ⟨n, hOperand, hNaN⟩ | hPending
  · left
    rw [hOperands] at hOperand
    rcases List.mem_cons.1 hOperand with rfl | hLeft
    · exact ⟨_, List.mem_cons_self, c.isNaN_of_apply hApply (.inr hNaN)⟩
    · rcases List.mem_cons.1 hLeft with rfl | hRest
      · exact ⟨_, List.mem_cons_self, c.isNaN_of_apply hApply (.inl hNaN)⟩
      · exact ⟨n, List.mem_cons_of_mem _ hRest, hNaN⟩
  · exact .inr hPending

/-- The value of a machine that holds a float that is not a number is not a number. -/
theorem isNaN_of_holdsNaN (h : m.HoldsNaN) {value : Float}
    (hValue : (c.run length m).outcome = .ok value) : value.isNaN = true := by
  obtain ⟨last, hReaches, hHalt⟩ := c.exists_reaches_halt length m
  have hLast : last.HoldsNaN := hReaches.invariant
    (fun _ _ hHolds hMove => holdsNaN_of_move_shift hHolds hMove)
    (fun _ _ _ hHolds hMove => holdsNaN_of_move_reduce hHolds hMove) h
  rw [hValue] at hHalt
  obtain ⟨hPending, -, hOperands⟩ := of_move_halt_ok hHalt
  rcases hLast with ⟨n, hOperand, hNaN⟩ | ⟨n, hToken, -⟩
  · rw [hOperands] at hOperand
    rwa [List.mem_singleton.1 hOperand] at hNaN
  · rw [hPending] at hToken
    cases hToken

end Kept

/-- A well-formed list of tokens that holds a float that is not a number fails by a division exactly if
it has a zero divisor, and otherwise its value is not a number. -/
theorem evaluate_of_mem_isNaN (c : Calculator) {tokens : List Token}
    (hTokens : Token.WellFormed tokens) {n : Float} (hMem : .number n ∈ tokens)
    (hNaN : n.isNaN = true) :
    (∃ position, Token.ZeroDivisorAt tokens position) ∧
        c.evaluate tokens = .error .divisionByZero ∨
      (∀ position, ¬ Token.ZeroDivisorAt tokens position) ∧
        ∃ value, c.evaluate tokens = .ok value ∧ value.isNaN = true := by
  have hHolds : (Machine.start tokens).HoldsNaN := .inr ⟨n, hMem, hNaN⟩
  obtain ⟨chain, rfl⟩ := Chain.wellFormed_iff_exists_tokens.1 hTokens
  by_cases hZero : ∃ position, Token.ZeroDivisorAt chain.tokens position
  · have hChain := chain.exists_zeroDivisorAt_tokens_iff.1 hZero
    exact .inl ⟨hZero, c.evaluate_of_hasZeroDivisor hChain⟩
  · have hNone := not_exists.1 hZero
    obtain ⟨value, hValue⟩ := c.exists_evaluate (Chain.not_hasZeroDivisor_of_tokens hNone)
    exact .inr ⟨hNone, value, hValue, isNaN_of_holdsNaN hHolds hValue⟩

/-- Saturation replaces the number beside what is not a number, and multiplies by zero afterwards. -/
theorem evaluate_of_mem_isNaN_saturated :
    Token.WellFormed [.number 5000, .operator .plus, .number Float.nan, .operator .times,
        .number 0] ∧
      ∃ value, standard.evaluate [.number 5000, .operator .plus, .number Float.nan,
        .operator .times, .number 0] = .ok value ∧ value.isNaN = true := by
  have hTokens : Token.WellFormed [.number 5000, .operator .plus, .number Float.nan,
      .operator .times, .number 0] :=
    Chain.wellFormed_iff_exists_tokens.2 ⟨⟨5000, [(.plus, Float.nan), (.times, 0)]⟩, rfl⟩
  have hMem : Token.number Float.nan ∈ [.number 5000, .operator .plus, .number Float.nan,
      .operator .times, .number 0] :=
    .tail _ (.tail _ (.head _))
  rcases evaluate_of_mem_isNaN standard hTokens hMem rfl with ⟨-, hFails⟩ | ⟨-, hValue⟩
  · exact absurd hFails (by decide +kernel)
  · exact ⟨hTokens, hValue⟩

section Made

/-- A run on numbers holds only numbers until it multiplies negative infinity by a zero. -/
theorem holdsNumbers_or_of_reaches (hLimit : c.limit < Float.inf)
    (hNumbers : ∀ n, .number n ∈ first.pending → n.isNaN = false) (hFirst : first.HoldsNumbers)
    (h : c.Reaches length first m) :
    m.HoldsNumbers ∨ ∃ earlier reduction next, c.Reaches length first earlier ∧
      c.move length earlier = .reduce reduction next ∧ reduction.IsInfinityTimesZero := by
  induction h with
  | refl => exact .inl hFirst
  | @shift m next hReaches hMove ih =>
      refine ih.imp_left fun hHolds => ?_
      rcases cases_move_shift hMove with ⟨read, rest, hPending, rfl⟩ | ⟨op, rest, hPending, rfl⟩
      · -- What is read is one of the tokens that the run began with.
        refine List.forall_mem_cons.2 ⟨hNumbers read ?_, hHolds⟩
        refine hReaches.pending_suffix.mem ?_
        rw [hPending]
        exact List.mem_cons_self
      · exact hHolds
  | @reduce m next reduction hReaches hMove ih =>
      rcases ih with hHolds | hMade
      · obtain ⟨rest, below, -, hOperands, hApply, rfl⟩ := of_move_reduce hMove
        unfold Machine.HoldsNumbers at hHolds
        rw [hOperands, List.forall_mem_cons, List.forall_mem_cons] at hHolds
        obtain ⟨hRight, hLeft, hRest⟩ := hHolds
        -- Both operands are numbers, so a result that is none has only one origin.
        cases hResult : reduction.result.isNaN with
        | false => exact .inl (List.forall_mem_cons.2 ⟨hResult, hRest⟩)
        | true =>
            exact .inr ⟨m, reduction, _, hReaches, hMove,
              c.of_isNaN_apply hLimit hApply hResult hLeft hRight⟩
      · exact .inr hMade

/-- If the value of a run on numbers is none, the run has multiplied negative infinity by a zero. -/
theorem exists_infinityTimesZero_of_isNaN (hLimit : c.limit < Float.inf)
    (hNumbers : ∀ n, .number n ∈ first.pending → n.isNaN = false) (hFirst : first.HoldsNumbers)
    {value : Float} (hValue : (c.run length first).outcome = .ok value) (hNaN : value.isNaN = true) :
    ∃ earlier reduction next, c.Reaches length first earlier ∧
      c.move length earlier = .reduce reduction next ∧ reduction.IsInfinityTimesZero := by
  obtain ⟨last, hReaches, hHalt⟩ := c.exists_reaches_halt length first
  rw [hValue] at hHalt
  obtain ⟨-, -, hOperands⟩ := of_move_halt_ok hHalt
  refine (holdsNumbers_or_of_reaches hLimit hNumbers hFirst hReaches).resolve_left fun hHolds => ?_
  have hNumber : value.isNaN = false := hHolds value (hOperands ▸ List.mem_cons_self)
  rw [hNaN] at hNumber
  cases hNumber

end Made

/-- If the value of a well-formed list of numbers and operators is not a number, under a limit that
infinity is beyond, then a zero stands in the list behind a multiplication sign, and the run has
multiplied negative infinity by it. -/
theorem exists_zero_factor_of_isNaN (c : Calculator) (hInfinity : c.limit ≠ Float.inf)
    (hLimit : c.limit.isNaN = false) {tokens : List Token} (hTokens : Token.WellFormed tokens)
    (hNumbers : ∀ n, .number n ∈ tokens → n.isNaN = false) {value : Float}
    (hValue : c.evaluate tokens = .ok value) (hNaN : value.isNaN = true) :
    ∃ position n, position % 2 = 1 ∧ tokens[position]? = some (.operator .times) ∧
      tokens[position + 1]? = some (.number n) ∧ IsZero n ∧
      ∃ reduction ∈ (c.runTokens tokens).reductions,
        reduction.operator = .times ∧ reduction.left = -Float.inf ∧ reduction.right = n := by
  have hBelow : c.limit < Float.inf := lt_inf_iff.2 ⟨hInfinity, hLimit⟩
  have hStart : (Machine.start tokens).HoldsNumbers := fun n hOperand => absurd hOperand List.not_mem_nil
  obtain ⟨earlier, reduction, next, hReaches, hMove, hTimes, hLeft, hZero⟩ :=
    exists_infinityTimesZero_of_isNaN hBelow hNumbers hStart hValue hNaN
  have hFactor := factor_of_reduce hTokens hReaches hMove (by rw [hTimes]; rfl)
  rw [hTimes] at hFactor
  obtain ⟨position, hSign, hNumber⟩ := Token.exists_position_of_suffix hFactor
  exact ⟨position, reduction.right, Token.odd_of_operator hTokens hSign, hSign, hNumber, hZero,
    reduction, hReaches.mem_reductions hMove, hTimes, hLeft, rfl⟩

/-- Finite numbers overflow to negative infinity, which is then multiplied by zero. -/
theorem exists_zero_factor_of_isNaN_overflow :
    standard.evaluate [.number (-1e308), .operator .times, .number 1000, .operator .times,
        .number 0] = .ok Float.nan ∧
      ∃ position n, position % 2 = 1 ∧
        [Token.number (-1e308), .operator .times, .number 1000, .operator .times,
          .number 0][position]? = some (.operator .times) ∧
        [Token.number (-1e308), .operator .times, .number 1000, .operator .times,
          .number 0][position + 1]? = some (.number n) ∧ IsZero n ∧
        ∃ reduction ∈ (standard.runTokens [.number (-1e308), .operator .times, .number 1000,
            .operator .times, .number 0]).reductions,
          reduction.operator = .times ∧ reduction.left = -Float.inf ∧ reduction.right = n := by
  have hTokens : Token.WellFormed [.number (-1e308), .operator .times, .number 1000,
      .operator .times, .number 0] :=
    Chain.wellFormed_iff_exists_tokens.2 ⟨⟨-1e308, [(.times, 1000), (.times, 0)]⟩, rfl⟩
  have hNumbers : ∀ n, Token.number n ∈ [Token.number (-1e308), .operator .times, .number 1000,
      .operator .times, .number 0] → n.isNaN = false := by
    intro n hMem
    simp only [List.mem_cons, Token.number.injEq, reduceCtorEq, List.not_mem_nil, or_false,
      false_or] at hMem
    rcases hMem with rfl | rfl | rfl <;> decide +kernel
  have hValue : standard.evaluate [.number (-1e308), .operator .times, .number 1000,
      .operator .times, .number 0] = .ok Float.nan := by
    decide +kernel
  exact ⟨hValue, exists_zero_factor_of_isNaN standard (by decide +kernel) (by decide +kernel)
    hTokens hNumbers hValue rfl⟩

end Calculator

end FlatArith
