import FlatArith.Proofs.ZeroDivisors
import FlatArith.Reachable

/-!
# The stacks of a reachable machine

`Coherent` says how the stacks of the machine stand to each other and to the tokens, at every moment of a
run on any list of tokens:

* the stacks are those of frames, with one more operand exactly before an operator is read;
* the frames bind the more tightly the higher they stand;
* the operator of the topmost frame has been read last, until it is reduced;
* the right operand of a multiplicative operator is the number that stands behind it in the list.

The last point is why no computed value is ever divided by.  It holds because only the topmost frame can
be multiplicative: the result of a reduction is never the right operand of such a frame.
-/

namespace FlatArith

/-- Every frame binds more tightly than the frames below it. -/
def Stacked (frames : List Frame) : Prop :=
  frames.Pairwise fun upper lower => lower.operator.rank < upper.operator.rank

namespace Stacked

theorem nil : Stacked [] := List.Pairwise.nil

theorem below {frame : Frame} {below : List Frame} (h : Stacked (frame :: below)) : Stacked below :=
  (List.pairwise_cons.1 h).2

/-- An operator may go on the stack when it binds more tightly than the topmost frame. -/
theorem push {frames : List Frame} {op : Operator} (h : Stacked frames)
    (hHead : ∀ frame ∈ frames.head?, frame.operator.rank < op.rank) (n : Float) :
    Stacked (⟨n, op⟩ :: frames) := by
  refine List.pairwise_cons.2 ⟨fun lower hLower => ?_, h⟩
  cases frames with
  | nil => cases hLower
  | cons frame below =>
      have hFrame : frame.operator.rank < op.rank := hHead frame rfl
      rcases List.mem_cons.1 hLower with rfl | hBelow
      · exact hFrame
      · exact Nat.lt_trans ((List.pairwise_cons.1 h).1 lower hBelow) hFrame

/-- The left operand of a frame does not matter. -/
theorem replace {frame : Frame} {below : List Frame} (h : Stacked (frame :: below)) (n : Float) :
    Stacked (⟨n, frame.operator⟩ :: below) :=
  List.pairwise_cons.2 (List.pairwise_cons.1 h)

/-- Only the topmost frame can be multiplicative. -/
theorem isSum_below {frame : Frame} {below : List Frame} (h : Stacked (frame :: below)) :
    IsSum below := by
  intro lower hLower
  have hRank := (List.pairwise_cons.1 h).1 lower hLower
  have hBound := frame.operator.rank_le_two
  have hPositive := lower.operator.rank_pos
  rw [Operator.isAdditive_eq_rank]
  exact beq_iff_eq.2 (by omega)

end Stacked

/-- What holds of the machine at every moment of a run on the tokens. -/
inductive Coherent (tokens : List Token) : Machine → Prop
  /-- While there are tokens to read, the operator of the topmost frame stands right before them. -/
  | beforeOperand {frames : List Frame} {pending : List Token} (stacked : Stacked frames)
      (suffix : pending <:+ tokens)
      (fits : Token.WellFormed tokens → Token.WellFormedFrom .operand pending)
      (last : pending ≠ [] →
        ∀ frame ∈ frames.head?, .operator frame.operator :: pending <:+ tokens) :
      Coherent tokens (.beforeOperand frames pending)
  /-- If the topmost frame is multiplicative, its operator and its right operand stand right before the
  pending tokens. -/
  | beforeOperator {frames : List Frame} {n : Float} {pending : List Token}
      (stacked : Stacked frames) (suffix : pending <:+ tokens)
      (fits : Token.WellFormed tokens → Token.WellFormedFrom .operator pending)
      (factor : ∀ frame ∈ frames.head?, frame.operator.isAdditive = false →
        .operator frame.operator :: .number n :: pending <:+ tokens) :
      Coherent tokens (.beforeOperator frames n pending)

/-- The machine after a move that does not halt it. -/
def Move.next? : Move → Option Machine
  | .shift next => some next
  | .reduce _ next => some next
  | .halt _ => none

namespace Calculator

variable {c : Calculator} {op : Operator} {left right : Float} {after : Float → Machine}

theorem exists_of_next?_applying {next : Machine}
    (h : (c.applying op left right after).next? = some next) :
    ∃ result, c.apply op left right = .ok result ∧ next = after result := by
  cases hApply : c.apply op left right with
  | ok result =>
      rw [c.applying_of_ok hApply] at h
      exact ⟨result, rfl, (Option.some.inj h).symm⟩
  | error failure =>
      rw [c.applying_of_error hApply] at h
      cases h

/-- What every move keeps, whatever it does, holds in every reachable state. -/
theorem Reaches.invariant_of_next {length : Nat} {holds : Machine → Prop} {first m : Machine}
    (step : ∀ m next, holds m → (c.move length m).next? = some next → holds next)
    (h : c.Reaches length first m) (start : holds first) : holds m := by
  refine h.invariant (fun m next hHolds hMove => ?_) (fun m next reduction hHolds hMove => ?_) start
  · exact step m next hHolds (by rw [hMove]; rfl)
  · exact step m next hHolds (by rw [hMove]; rfl)

end Calculator

namespace Coherent

variable {c : Calculator} {length : Nat} {tokens : List Token} {m next : Machine}

theorem start (tokens : List Token) : Coherent tokens (.start tokens) := by
  rw [Machine.start_eq_beforeOperand]
  exact .beforeOperand .nil (List.suffix_refl tokens) id (by rintro - frame ⟨⟩)

/-- A move keeps the stacks coherent. -/
theorem move (h : Coherent tokens m) (hNext : (c.move length m).next? = some next) :
    Coherent tokens next := by
  cases h with
  | @beforeOperand frames pending stacked suffix fits last =>
      rcases c.cases_move_beforeOperand length frames pending with
        ⟨n, rest, rfl, hMove⟩ | ⟨upper, lower, below, rfl, rfl, hMove⟩ | hMove
      · rw [hMove] at hNext
        cases hNext
        have hRest : rest <:+ tokens := (List.suffix_cons (.number n) rest).trans suffix
        refine .beforeOperator stacked hRest (fun hTokens => (fits hTokens).2) ?_
        exact fun frame hFrame _ => last (List.cons_ne_nil _ _) frame hFrame
      · rw [hMove] at hNext
        obtain ⟨result, -, rfl⟩ := Calculator.exists_of_next?_applying hNext
        exact .beforeOperand (stacked.below.replace result) suffix fits fun hNil => absurd rfl hNil
      · rw [hMove] at hNext
        cases hNext
  | @beforeOperator frames n pending stacked suffix fits factor =>
      rcases c.cases_move_beforeOperator length frames n pending with
        ⟨op, rest, rfl, hHead, hMove⟩ | ⟨frame, below, rfl, hMove⟩ | ⟨number, rest, rfl, hMove⟩ |
        ⟨rfl, rfl, hMove⟩
      · rw [hMove] at hNext
        cases hNext
        have hRest : rest <:+ tokens := (List.suffix_cons (.operator op) rest).trans suffix
        refine .beforeOperand (stacked.push hHead n) hRest (fun hTokens => (fits hTokens).2) ?_
        rintro - frame ⟨⟩
        exact suffix
      · rw [hMove] at hNext
        obtain ⟨result, -, rfl⟩ := Calculator.exists_of_next?_applying hNext
        -- What is left below is additive, so nothing is claimed of the result on top of it.
        refine .beforeOperator stacked.below suffix fits fun lower hLower hFactor => ?_
        rw [stacked.isSum_below lower (List.mem_of_mem_head? hLower)] at hFactor
        cases hFactor
      · rw [hMove] at hNext
        cases hNext
      · rw [hMove] at hNext
        cases hNext

/-- The stacks of every reachable machine are coherent. -/
theorem of_reaches (h : c.Reaches length (.start tokens) m) : Coherent tokens m :=
  h.invariant_of_next (fun _ _ hCoherent hNext => hCoherent.move hNext) (start tokens)

/-- On a well-formed list of tokens a reachable machine takes a token in, applies an operator, or halts
with its result.  The operator is applied to the topmost operand, which for a multiplicative operator
is the last number that was read, and the operator stands before it. -/
theorem cases_move_of_wellFormed (hTokens : Token.WellFormed tokens)
    (h : c.Reaches length (.start tokens) m) :
    (∃ next, c.move length m = .shift next) ∨
      (∃ op left right after, c.move length m = c.applying op left right after ∧
        m.operands.head? = some right ∧
        (op.isAdditive = false → .operator op :: .number right :: m.pending <:+ tokens)) ∨
      ∃ result, c.move length m = .halt (.ok result) := by
  cases of_reaches h with
  | @beforeOperand frames pending stacked suffix fits last =>
      -- An operand slot is never the end of a well-formed list, and no operator fits it.
      have hPending := fits hTokens
      cases pending with
      | nil => cases hPending
      | cons token rest =>
          cases token with
          | number n => exact .inl ⟨_, c.move_number length frames n rest⟩
          | operator op => exact absurd hPending.1 id
  | @beforeOperator frames n pending stacked suffix fits factor =>
      rcases c.cases_move_beforeOperator length frames n pending with
        ⟨op, rest, rfl, hHead, hMove⟩ | ⟨frame, below, rfl, hMove⟩ | ⟨number, rest, rfl, hMove⟩ |
        ⟨rfl, rfl, hMove⟩
      · exact .inl ⟨_, hMove⟩
      · exact .inr (.inl ⟨_, _, _, _, hMove, rfl, factor frame rfl⟩)
      · exact absurd (fits hTokens).1 id
      · exact .inr (.inr ⟨n, hMove⟩)

end Coherent

namespace Calculator

variable {c : Calculator} {length : Nat} {tokens : List Token} {m : Machine}

/-- The right operand of a multiplicative operator that a well-formed list leads to is the number behind
the operator. -/
theorem factor_of_reduce (hTokens : Token.WellFormed tokens)
    (h : c.Reaches length (.start tokens) m) {reduction : Reduction} {next : Machine}
    (hMove : c.move length m = .reduce reduction next)
    (hOperator : reduction.operator.isAdditive = false) :
    .operator reduction.operator :: .number reduction.right :: m.pending <:+ tokens := by
  rcases Coherent.cases_move_of_wellFormed hTokens h with
    ⟨shifted, hIs⟩ | ⟨op, left, right, after, hIs, -, hFactor⟩ | ⟨result, hIs⟩
  · rw [hIs] at hMove
    cases hMove
  · rw [hIs] at hMove
    obtain ⟨result, -, rfl, -⟩ := exists_of_applying_eq_reduce hMove
    exact hFactor hOperator
  · rw [hIs] at hMove
    cases hMove

/-- The divisor of a division that a well-formed list leads to is the number behind the division sign. -/
theorem divisor_of_reduce (hTokens : Token.WellFormed tokens)
    (h : c.Reaches length (.start tokens) m) {reduction : Reduction} {next : Machine}
    (hMove : c.move length m = .reduce reduction next) (hDivide : reduction.operator = .divide) :
    .operator .divide :: .number reduction.right :: m.pending <:+ tokens := by
  have hFactor := factor_of_reduce hTokens h hMove (by rw [hDivide]; rfl)
  rwa [hDivide] at hFactor

/-- So is the zero that makes a division fail. -/
theorem divisor_of_halt (hTokens : Token.WellFormed tokens)
    (h : c.Reaches length (.start tokens) m)
    (hMove : c.move length m = .halt (.error .divisionByZero)) :
    ∃ n, m.operands.head? = some n ∧ IsZero n ∧
      .operator .divide :: .number n :: m.pending <:+ tokens := by
  rcases Coherent.cases_move_of_wellFormed hTokens h with
    ⟨shifted, hIs⟩ | ⟨op, left, right, after, hIs, hHead, hFactor⟩ | ⟨result, hIs⟩
  · rw [hIs] at hMove
    cases hMove
  · rw [hIs] at hMove
    obtain ⟨failure, hApply, -⟩ := exists_of_applying_eq_halt hMove
    obtain ⟨rfl, hZero⟩ := dividesByZero_iff.1 (dividesByZero_of_apply hApply)
    exact ⟨right, hHead, hZero, hFactor rfl⟩
  · rw [hIs] at hMove
    cases hMove

end Calculator

end FlatArith
