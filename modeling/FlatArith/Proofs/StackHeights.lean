import FlatArith.Proofs.Coherence
import FlatArith.Proofs.Moves
import FlatArith.Proofs.Positions

/-!
# How high the stacks are

At every moment of a run the operators on their stack bind the more tightly the higher they stand, and
the two stacks have the same height or differ by one operand.  Which of the two is decided by the token
that was read last.  There are only two ranks, so neither stack grows with the length of the list.

* `Machine.HasRead` relates a machine to the tokens before the pending ones.  Moves keep it
  (`HasRead.shift`, `HasRead.reduce`).
* `Machine.Balanced` says how the stacks stand after these tokens.  It follows from `HasRead`, which
  knows the slot, and `Coherent`, which knows the frames.
-/

namespace FlatArith

namespace Stacked

/-- Every frame takes up one rank. -/
theorem length_le_rank {frame : Frame} {below : List Frame} (h : Stacked (frame :: below)) :
    (frame :: below).length ≤ frame.operator.rank := by
  induction below generalizing frame with
  | nil => exact frame.operator.rank_pos
  | cons lower rest ih =>
      have hRank : lower.operator.rank < frame.operator.rank :=
        (List.pairwise_cons.1 h).1 lower List.mem_cons_self
      exact Nat.lt_of_le_of_lt (ih h.below) hRank

theorem length_le {frames : List Frame} (h : Stacked frames) : frames.length ≤ 2 := by
  cases frames with
  | nil => exact Nat.zero_le 2
  | cons frame below => exact h.length_le_rank.trans frame.operator.rank_le_two

/-- Read from the bottom, the ranks of the operators increase. -/
theorem pairwise_rank {frames : List Frame} (h : Stacked frames) :
    ((frames.map Frame.operator).reverse.map Operator.rank).Pairwise (· < ·) := by
  rw [List.map_reverse, List.pairwise_reverse, List.pairwise_map, List.pairwise_map]
  exact h

end Stacked

/-- Of two operators on the stack the lower is additive and the upper is not. -/
theorem Operator.of_rank_lt {upper lower : Operator} (h : lower.rank < upper.rank) :
    (lower = .plus ∨ lower = .minus) ∧ (upper = .times ∨ upper = .divide) := by
  revert h
  cases lower <;> cases upper <;> decide

namespace Machine

/-- The machine has read these tokens: all of them fit their slots, and its own slot is the next one.
Before the first token its stacks are empty. -/
structure HasRead (opened : List Token) (m : Machine) : Prop where
  placed : ∀ position, ¬ Token.MisplacedAt opened position
  slot_eq : m.slot = Slot.operand.after opened.length
  untouched : opened = [] → m.operands = [] ∧ m.operators = []

/-- How the stacks stand when these tokens have been read. -/
structure Balanced (opened : List Token) (m : Machine) : Prop where
  /-- From the bottom to the top the operators bind more and more tightly. -/
  rising : (m.operators.reverse.map Operator.rank).Pairwise (· < ·)
  atMostTwo : m.operators.length ≤ 2
  sumBelow : ∀ upper lower, m.operators = [upper, lower] →
    (lower = .plus ∨ lower = .minus) ∧ (upper = .times ∨ upper = .divide)
  beforeFirst : opened = [] → m.operands = [] ∧ m.operators = []
  afterOperator : ∀ op, opened.getLast? = some (.operator op) →
    m.operands.length = m.operators.length
  afterNumber : ∀ n, opened.getLast? = some (.number n) →
    m.operands.length = m.operators.length + 1

namespace HasRead

variable {c : Calculator} {length : Nat} {opened tokens : List Token} {m next : Machine}

theorem start (tokens : List Token) : (Machine.start tokens).HasRead [] where
  placed := by rintro position ⟨token, hToken, -⟩; cases hToken
  slot_eq := rfl
  untouched _ := ⟨rfl, rfl⟩

theorem shift (h : m.HasRead opened) (hMove : c.move length m = .shift next) :
    ∃ token, m.pending = token :: next.pending ∧ next.HasRead (opened ++ [token]) := by
  obtain ⟨token, hPending, hFits, hSlot⟩ := Calculator.fits_of_move_shift hMove
  refine ⟨token, hPending, fun position => ?_, ?_, fun hNil => by simp at hNil⟩
  · by_cases hBefore : position < opened.length
    · rw [Token.misplacedAt_append_of_lt hBefore]
      exact h.placed position
    · -- Behind the tokens that were read before there is only the new one.
      rintro ⟨last, hLast, hMisplaced⟩
      have hInside := (List.getElem?_eq_some_iff.1 hLast).1
      obtain rfl : position = opened.length := by
        rw [List.length_append, List.length_singleton] at hInside
        omega
      obtain rfl : token = last := by simpa using hLast
      rw [← h.slot_eq] at hMisplaced
      exact hMisplaced hFits
  · rw [hSlot, h.slot_eq, Slot.other_after, List.length_append, List.length_singleton]

theorem reduce (h : m.HasRead opened) {reduction : Reduction}
    (hMove : c.move length m = .reduce reduction next) :
    next.pending = m.pending ∧ next.HasRead opened := by
  obtain ⟨rest, below, hOperators, -, -, rfl⟩ := Calculator.of_move_reduce hMove
  refine ⟨rfl, h.placed, h.slot_eq, fun hNil => ?_⟩
  rw [(h.untouched hNil).2] at hOperators
  cases hOperators

/-- A reachable machine has read the tokens before the pending ones. -/
theorem exists_of_reaches (h : c.Reaches length (.start tokens) m) :
    ∃ opened, opened ++ m.pending = tokens ∧ m.HasRead opened := by
  induction h with
  | refl => exact ⟨[], rfl, start tokens⟩
  | shift _ hMove ih =>
      obtain ⟨opened, hTokens, hRead⟩ := ih
      obtain ⟨token, hPending, hNext⟩ := hRead.shift hMove
      rw [hPending, List.append_cons] at hTokens
      exact ⟨opened ++ [token], hTokens, hNext⟩
  | reduce _ hMove ih =>
      obtain ⟨opened, hTokens, hRead⟩ := ih
      obtain ⟨hPending, hNext⟩ := hRead.reduce hMove
      exact ⟨opened, by rw [hPending, hTokens], hNext⟩

/-- The token that was read last fits the other slot. -/
theorem fits_getLast? (h : m.HasRead opened) {token : Token} (hLast : opened.getLast? = some token) :
    m.slot.other.Fits token := by
  obtain ⟨earlier, rfl⟩ := List.getLast?_eq_some_iff.1 hLast
  have hSlot := h.slot_eq
  rw [List.length_append, List.length_singleton, ← Slot.other_after] at hSlot
  rw [hSlot, Slot.other_other]
  by_contra hMisplaced
  exact h.placed earlier.length ⟨token, by simp, hMisplaced⟩

theorem slot_of_operator (h : m.HasRead opened) {op : Operator}
    (hLast : opened.getLast? = some (.operator op)) : m.slot = .operand := by
  have hFits := h.fits_getLast? hLast
  cases hSlot : m.slot with
  | operand => rfl
  | operator => rw [hSlot] at hFits; exact hFits.elim

theorem slot_of_number (h : m.HasRead opened) {n : Float}
    (hLast : opened.getLast? = some (.number n)) : m.slot = .operator := by
  have hFits := h.fits_getLast? hLast
  cases hSlot : m.slot with
  | operand => rw [hSlot] at hFits; exact hFits.elim
  | operator => rfl

end HasRead

end Machine

namespace Coherent

variable {c : Calculator} {length : Nat} {opened tokens : List Token} {m : Machine}

/-- Before an operand every operator has its left operand. -/
theorem length_operands_of_operand (h : Coherent tokens m) (hSlot : m.slot = .operand) :
    m.operands.length = m.operators.length := by
  cases h with
  | beforeOperand => simp [Machine.beforeOperand]
  | beforeOperator => cases hSlot

/-- Before an operator there is one more operand, the topmost. -/
theorem length_operands_of_operator (h : Coherent tokens m) (hSlot : m.slot = .operator) :
    m.operands.length = m.operators.length + 1 := by
  cases h with
  | beforeOperand => cases hSlot
  | beforeOperator => simp [Machine.beforeOperator]

theorem exists_stacked (h : Coherent tokens m) :
    ∃ frames, Stacked frames ∧ m.operators = frames.map Frame.operator := by
  cases h with
  | beforeOperand stacked => exact ⟨_, stacked, rfl⟩
  | beforeOperator stacked => exact ⟨_, stacked, rfl⟩

theorem length_operators_le (h : Coherent tokens m) : m.operators.length ≤ 2 := by
  obtain ⟨frames, hStacked, hOperators⟩ := h.exists_stacked
  rw [hOperators, List.length_map]
  exact hStacked.length_le

theorem length_operands_le (h : Coherent tokens m) : m.operands.length ≤ 3 := by
  have hOperators := h.length_operators_le
  cases hSlot : m.slot with
  | operand => rw [h.length_operands_of_operand hSlot]; omega
  | operator => rw [h.length_operands_of_operator hSlot]; omega

/-- The frames give the order of the operators, and the last token the slot and with it the heights. -/
theorem balanced (h : Coherent tokens m) (hRead : m.HasRead opened) : m.Balanced opened := by
  obtain ⟨frames, hStacked, hOperators⟩ := h.exists_stacked
  have hRising := hStacked.pairwise_rank
  rw [← hOperators] at hRising
  refine ⟨hRising, h.length_operators_le, fun upper lower hPair => ?_, hRead.untouched,
    fun op hLast => ?_, fun n hLast => ?_⟩
  · rw [hPair] at hRising
    exact Operator.of_rank_lt (by simpa using hRising)
  · exact h.length_operands_of_operand (hRead.slot_of_operator hLast)
  · exact h.length_operands_of_operator (hRead.slot_of_number hLast)

/-- At the end of a well-formed list, and while the last operators are reduced, an operator is what
the machine would read next. -/
theorem slot_of_pending_eq_nil (h : Coherent tokens m) (hTokens : Token.WellFormed tokens)
    (hPending : m.pending = []) : m.slot = .operator := by
  cases h with
  | beforeOperand _ _ fits =>
      obtain rfl := hPending
      cases fits hTokens
  | beforeOperator => rfl

/-- A well-formed list is never found to be malformed. -/
theorem move_ne_malformed (hTokens : Token.WellFormed tokens)
    (h : c.Reaches length (.start tokens) m) (reported : Nat) :
    c.move length m ≠ .halt (.error (.malformed reported)) := by
  intro hMove
  rcases cases_move_of_wellFormed hTokens h with
    ⟨next, hIs⟩ | ⟨op, left, right, after, hIs, -, -⟩ | ⟨result, hIs⟩
  all_goals rw [hIs] at hMove
  · cases hMove
  · obtain ⟨failure, hApply, hFailure⟩ := Calculator.exists_of_applying_eq_halt hMove
    obtain rfl := Calculator.eq_divisionByZero_of_apply hApply
    cases hFailure
  · cases hMove

/-- There are two operands to take off whenever an operator of a well-formed list is reduced. -/
theorem exists_operands_of_reduceTop (hTokens : Token.WellFormed tokens)
    (h : c.Reaches length (.start tokens) m) {top : Operator} {below : List Operator}
    (hOperators : m.operators = top :: below)
    (hMove : c.move length m = c.reduceTop length m top below) :
    ∃ right left rest, m.operands = right :: left :: rest := by
  rcases Calculator.appliesTop_or hOperators hMove with
    ⟨op, lower, left, right, rest, -, hOperands, -⟩ | hMalformed
  · exact ⟨right, left, rest, hOperands⟩
  · exact absurd hMalformed (move_ne_malformed hTokens h length)

end Coherent

namespace Calculator

/-- A run on a well-formed list halts.  Unless a division fails, it leaves one operand, which is the
value of the list. -/
theorem exists_reaches_single (c : Calculator) {tokens : List Token}
    (hTokens : Token.WellFormed tokens) :
    ∃ last, c.Reaches tokens.length (.start tokens) last ∧
      c.move tokens.length last = .halt (c.evaluate tokens) ∧
      (c.evaluate tokens ≠ .error .divisionByZero →
        ∃ result, c.evaluate tokens = .ok result ∧ last.pending = [] ∧ last.operators = [] ∧
          last.operands = [result]) := by
  obtain ⟨last, hReaches, hHalt⟩ := c.exists_reaches_halt tokens.length (.start tokens)
  have hLast : c.move tokens.length last = .halt (c.evaluate tokens) := hHalt
  refine ⟨last, hReaches, hLast, fun hDivides => ?_⟩
  rcases cases_move_halt hLast with ⟨result, hResult, hPending, hOperators, hOperands⟩ |
    ⟨op, below, left, right, failure, hFailure, -, hApply⟩ | hMalformed
  · exact ⟨result, hResult, hPending, hOperators, hOperands⟩
  · rw [hFailure, eq_divisionByZero_of_apply hApply] at hDivides
    exact absurd rfl hDivides
  · rw [hMalformed] at hLast
    exact absurd hLast (Coherent.move_ne_malformed hTokens hReaches _)

/-- The stacks at every moment of a run, until the first misplaced token and through the reductions
that end the run.  The operators increase in rank from the bottom, and there is one operand more than
operators, except before the first token, when both stacks are empty, and after an operator was read,
when they have the same height.  On a well-formed list two operands are there for every reduction, the
tokens are never found malformed, and one operand is left unless a division fails. -/
theorem stacks_of_reaches (c : Calculator) (tokens : List Token) :
    (∀ m, c.Reaches tokens.length (.start tokens) m →
      (∃ opened, opened ++ m.pending = tokens ∧
        (∀ position < opened.length, ¬ Token.MisplacedAt tokens position) ∧ m.Balanced opened) ∧
      m.operands.length ≤ 3 ∧ m.operators.length ≤ 2) ∧
    (Token.WellFormed tokens →
      (∀ m, c.Reaches tokens.length (.start tokens) m →
        (m.pending = [] → m.operands.length = m.operators.length + 1) ∧
        (∀ top below, m.operators = top :: below →
          c.move tokens.length m = c.reduceTop tokens.length m top below →
            ∃ right left rest, m.operands = right :: left :: rest) ∧
        ∀ reported, c.move tokens.length m ≠ .halt (.error (.malformed reported))) ∧
      ∃ last, c.Reaches tokens.length (.start tokens) last ∧
        c.move tokens.length last = .halt (c.evaluate tokens) ∧
        (c.evaluate tokens ≠ .error .divisionByZero →
          ∃ result, c.evaluate tokens = .ok result ∧ last.pending = [] ∧ last.operators = [] ∧
            last.operands = [result])) := by
  refine ⟨fun m hReaches => ?_,
    fun hTokens => ⟨fun m hReaches => ?_, c.exists_reaches_single hTokens⟩⟩
  · have hCoherent := Coherent.of_reaches hReaches
    obtain ⟨opened, rfl, hRead⟩ := Machine.HasRead.exists_of_reaches hReaches
    refine ⟨⟨opened, rfl, fun position hPosition => ?_, hCoherent.balanced hRead⟩,
      hCoherent.length_operands_le, hCoherent.length_operators_le⟩
    rw [Token.misplacedAt_append_of_lt hPosition]
    exact hRead.placed position
  · have hCoherent := Coherent.of_reaches hReaches
    exact ⟨fun hPending =>
        hCoherent.length_operands_of_operator (hCoherent.slot_of_pending_eq_nil hTokens hPending),
      fun top below => Coherent.exists_operands_of_reduceTop hTokens hReaches,
      Coherent.move_ne_malformed hTokens hReaches⟩

/-- A product behind a sign of addition makes the stacks as high as they get, and leaves its operands in
place for the reduction that comes next. -/
theorem stacks_of_reaches_highest :
    ∃ m, standard.Reaches 5 (.start
        [.number 1, .operator .plus, .number 2, .operator .times, .number 3]) m ∧
      m.operands.length = 3 ∧ m.operators.length = 2 ∧
      standard.move 5 m = standard.reduceTop 5 m .times [.plus] ∧
      ∃ right left rest, m.operands = right :: left :: rest := by
  have hTokens : Token.WellFormed
      [.number 1, .operator .plus, .number 2, .operator .times, .number 3] :=
    Chain.wellFormed_iff_exists_tokens.2 ⟨⟨1, [(.plus, 2), (.times, 3)]⟩, rfl⟩
  have hReaches : standard.Reaches 5
      (.start [.number 1, .operator .plus, .number 2, .operator .times, .number 3])
      ⟨.operator, [], [3, 2, 1], [.times, .plus]⟩ :=
    (Reaches.refl _).shift rfl |>.shift rfl |>.shift rfl |>.shift rfl |>.shift rfl
  obtain ⟨-, hOperands, -⟩ := ((stacks_of_reaches standard _).2 hTokens).1 _ hReaches
  exact ⟨_, hReaches, rfl, rfl, rfl, hOperands .times [.plus] rfl rfl⟩

end Calculator

end FlatArith
