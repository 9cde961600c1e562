import FlatArith.Proofs.Frames
import FlatArith.Reachable

/-!
# What a move does

This module says what the moves of a machine are, whatever is on its stacks: one lemma for each kind of
move, with everything that the machine had to hold for it (`cases_move_shift`, `of_move_reduce`,
`cases_move_halt`).  From any machine the moves lead to one that halts, and its run ends with what that
machine halts with (`exists_reaches_halt`).

A reduction takes one of the operators that the machine holds or has still to read.  So a run that ends
with a value has applied all of them, and one that ends because an operator cannot be applied has not
(`length_reductions_of_ok`, `length_reductions_of_error`).
-/

namespace FlatArith

/-- The number of operators in a list of tokens. -/
def Token.operatorCount : List Token → Nat
  | [] => 0
  | .number _ :: rest => operatorCount rest
  | .operator _ :: rest => operatorCount rest + 1

/-- The number of operators that a machine holds or has still to read. -/
def Machine.operatorsLeft (m : Machine) : Nat :=
  m.operators.length + Token.operatorCount m.pending

namespace Calculator

variable {c : Calculator} {length : Nat} {first m next : Machine}

section Inversion

/-- The machine applies its topmost operator to its two topmost operands, and goes on with the result in
their place. -/
def AppliesTop (c : Calculator) (length : Nat) (m : Machine) : Prop :=
  ∃ op below left right rest, m.operators = op :: below ∧ m.operands = right :: left :: rest ∧
    c.move length m = c.applying op left right fun result =>
      { m with operands := result :: rest, operators := below }

/-- A machine that is about to reduce its topmost operator applies it, or has too few operands. -/
theorem appliesTop_or {top : Operator} {below : List Operator} (hOperators : m.operators = top :: below)
    (hMove : c.move length m = c.reduceTop length m top below) :
    c.AppliesTop length m ∨ c.move length m = .halt (.error (.malformed length)) := by
  unfold reduceTop at hMove
  split at hMove
  · next right left rest hOperands =>
      exact .inl ⟨top, below, left, right, rest, hOperators, hOperands, hMove⟩
  · exact .inr hMove

/-- A machine reads a number, reads an operator, applies the topmost operator, halts with its only
operand, or finds its tokens malformed. -/
theorem cases_move (c : Calculator) (length : Nat) (m : Machine) :
    (∃ n rest, m.pending = .number n :: rest ∧
        c.move length m = .shift (m.pushOperand n rest)) ∨
      (∃ op rest, m.pending = .operator op :: rest ∧
        c.move length m = .shift (m.pushOperator op rest)) ∨
      c.AppliesTop length m ∨
      (∃ value, m.pending = [] ∧ m.operators = [] ∧ m.operands = [value] ∧
        c.move length m = .halt (.ok value)) ∨
      c.move length m = .halt (.error (.malformed length)) := by
  obtain ⟨slot, pending, operands, operators⟩ := m
  cases pending with
  | nil =>
      cases operators with
      | cons top below => exact .inr (.inr ((appliesTop_or rfl rfl).imp_right .inr))
      | nil =>
          match operands with
          | [value] => exact .inr (.inr (.inr (.inl ⟨value, rfl, rfl, rfl, rfl⟩)))
          | [] | _ :: _ :: _ => exact .inr (.inr (.inr (.inr rfl)))
  | cons token rest =>
      match slot, token with
      | .operand, .number n => exact .inl ⟨n, rest, rfl, rfl⟩
      | .operand, .operator op => exact .inr (.inr (.inr (.inr rfl)))
      | .operator, .number n => exact .inr (.inr (.inr (.inr rfl)))
      | .operator, .operator op =>
          cases operators with
          | nil => exact .inr (.inl ⟨op, rest, rfl, rfl⟩)
          | cons top below =>
              by_cases hRank : op.rank ≤ top.rank
              · have hMove :
                    c.move length ⟨.operator, .operator op :: rest, operands, top :: below⟩ =
                      c.reduceTop length _ top below :=
                  if_pos hRank
                exact .inr (.inr ((appliesTop_or rfl hMove).imp_right .inr))
              · exact .inr (.inl ⟨op, rest, rfl, if_neg hRank⟩)

/-- A machine that takes a token in pushes it on its stack. -/
theorem cases_move_shift (h : c.move length m = .shift next) :
    (∃ n rest, m.pending = .number n :: rest ∧ next = m.pushOperand n rest) ∨
      ∃ op rest, m.pending = .operator op :: rest ∧ next = m.pushOperator op rest := by
  rcases c.cases_move length m with ⟨n, rest, hPending, hMove⟩ | ⟨op, rest, hPending, hMove⟩ |
    ⟨op, below, left, right, rest, -, -, hMove⟩ | ⟨value, -, -, -, hMove⟩ | hMove
  all_goals rw [hMove] at h
  · exact .inl ⟨n, rest, hPending, (Move.shift.inj h).symm⟩
  · exact .inr ⟨op, rest, hPending, (Move.shift.inj h).symm⟩
  · exact absurd h applying_ne_shift
  · cases h
  · cases h

/-- What a machine takes in fits its slot, and the other slot is next. -/
theorem fits_of_move_shift (h : c.move length m = .shift next) :
    ∃ token, m.pending = token :: next.pending ∧ m.slot.Fits token ∧ next.slot = m.slot.other := by
  obtain ⟨slot, pending, operands, operators⟩ := m
  rcases cases_move_shift h with ⟨n, rest, hPending, rfl⟩ | ⟨op, rest, hPending, rfl⟩
  all_goals
    obtain rfl : pending = _ :: rest := hPending
    cases slot
  · exact ⟨_, rfl, trivial, rfl⟩
  · cases h
  · cases h
  · exact ⟨_, rfl, trivial, rfl⟩

/-- A machine that reduces applies its topmost operator to its two topmost operands, and the result
replaces them. -/
theorem of_move_reduce {reduction : Reduction} (h : c.move length m = .reduce reduction next) :
    ∃ rest below, m.operators = reduction.operator :: below ∧
      m.operands = reduction.right :: reduction.left :: rest ∧
      c.apply reduction.operator reduction.left reduction.right = .ok reduction.result ∧
      next = { m with operands := reduction.result :: rest, operators := below } := by
  rcases c.cases_move length m with ⟨n, rest, -, hMove⟩ | ⟨op, rest, -, hMove⟩ |
    ⟨op, below, left, right, rest, hOperators, hOperands, hMove⟩ | ⟨value, -, -, -, hMove⟩ | hMove
  all_goals rw [hMove] at h
  · cases h
  · cases h
  · obtain ⟨result, hApply, rfl, rfl⟩ := exists_of_applying_eq_reduce h
    exact ⟨rest, below, hOperators, hOperands, hApply, rfl⟩
  · cases h
  · cases h

/-- A machine halts with its only operand, because it cannot apply its topmost operator, or because its
tokens are malformed. -/
theorem cases_move_halt {outcome : Outcome} (h : c.move length m = .halt outcome) :
    (∃ value, outcome = .ok value ∧ m.pending = [] ∧ m.operators = [] ∧ m.operands = [value]) ∨
      (∃ op below left right failure, outcome = .error failure ∧ m.operators = op :: below ∧
        c.apply op left right = .error failure) ∨
      outcome = .error (.malformed length) := by
  rcases c.cases_move length m with ⟨n, rest, -, hMove⟩ | ⟨op, rest, -, hMove⟩ |
    ⟨op, below, left, right, rest, hOperators, -, hMove⟩ |
    ⟨value, hPending, hOperators, hOperands, hMove⟩ | hMove
  all_goals rw [hMove] at h
  · cases h
  · cases h
  · obtain ⟨failure, hApply, rfl⟩ := exists_of_applying_eq_halt h
    exact .inr (.inl ⟨op, below, left, right, failure, rfl, hOperators, hApply⟩)
  · cases h
    exact .inl ⟨value, rfl, hPending, hOperators, hOperands⟩
  · cases h
    exact .inr (.inr rfl)

theorem of_move_halt_ok {value : Float} (h : c.move length m = .halt (.ok value)) :
    m.pending = [] ∧ m.operators = [] ∧ m.operands = [value] := by
  rcases cases_move_halt h with ⟨same, hSame, hMachine⟩ |
    ⟨op, below, left, right, failure, hFailure, -⟩ | hMalformed
  · cases hSame
    exact hMachine
  · cases hFailure
  · cases hMalformed

end Inversion

section Reaching

/-- Induction along the run of a machine: what holds of a machine that halts, and of one that makes a
move if it holds of the next one, holds of every machine. -/
theorem induction_run (c : Calculator) (length : Nat) {holds : Machine → Prop}
    (shift : ∀ m next, c.move length m = .shift next → holds next → holds m)
    (reduce : ∀ m reduction next, c.move length m = .reduce reduction next → holds next → holds m)
    (halt : ∀ m outcome, c.move length m = .halt outcome → holds m) (m : Machine) : holds m :=
  run.induct c length holds shift reduce halt m

/-- Moves lead from every machine to one that halts as the run does. -/
theorem exists_reaches_halt (c : Calculator) (length : Nat) (first : Machine) :
    ∃ last, c.Reaches length first last ∧
      c.move length last = .halt (c.run length first).outcome := by
  have onward : ∀ m, c.Reaches length first m → ∃ last, c.Reaches length first last ∧
      c.move length last = .halt (c.run length m).outcome := by
    intro m hReaches
    induction m using induction_run c length with
    | shift m next hMove ih =>
        rw [run_of_shift hMove]
        exact ih (hReaches.shift hMove)
    | reduce m reduction next hMove ih =>
        rw [run_of_reduce hMove]
        exact ih (hReaches.reduce hMove)
    | halt m outcome hMove =>
        rw [run_of_halt hMove]
        exact ⟨m, hReaches, hMove⟩
  exact onward first (.refl first)

/-- The tokens that are still to be read are the last ones. -/
theorem Reaches.pending_suffix (h : c.Reaches length first m) : m.pending <:+ first.pending := by
  induction h with
  | refl => exact List.suffix_refl _
  | shift _ hMove ih =>
      rcases cases_move_shift hMove with ⟨n, rest, hPending, rfl⟩ | ⟨op, rest, hPending, rfl⟩
      all_goals
        rw [hPending] at ih
        exact (List.suffix_cons _ _).trans ih
  | reduce _ hMove ih =>
      obtain ⟨rest, below, -, -, -, rfl⟩ := of_move_reduce hMove
      exact ih

/-- The run from a reachable machine reports the last of the reductions of the whole run. -/
theorem Reaches.reductions_suffix (h : c.Reaches length first m) :
    (c.run length m).reductions <:+ (c.run length first).reductions := by
  induction h with
  | refl => exact List.suffix_refl _
  | shift _ hMove ih =>
      rw [run_of_shift hMove] at ih
      exact ih
  | reduce _ hMove ih =>
      rw [run_of_reduce hMove] at ih
      exact (List.suffix_cons _ _).trans ih

/-- A reduction on the way is one of those of the run. -/
theorem Reaches.mem_reductions (h : c.Reaches length first m) {reduction : Reduction}
    (hMove : c.move length m = .reduce reduction next) :
    reduction ∈ (c.run length first).reductions := by
  refine h.reductions_suffix.mem ?_
  rw [run_of_reduce hMove]
  exact List.mem_cons_self

end Reaching

section Reductions

/-- Every reduction of a run is an application with its result. -/
theorem apply_of_mem_reductions {reduction : Reduction}
    (h : reduction ∈ (c.run length m).reductions) :
    c.apply reduction.operator reduction.left reduction.right = .ok reduction.result := by
  induction m using induction_run c length with
  | shift m next hMove ih =>
      rw [run_of_shift hMove] at h
      exact ih h
  | reduce m made next hMove ih =>
      rw [run_of_reduce hMove] at h
      rcases List.mem_cons.1 h with rfl | hLater
      · obtain ⟨_, _, -, -, hApply, -⟩ := of_move_reduce hMove
        exact hApply
      · exact ih hLater
  | halt m outcome hMove =>
      rw [run_of_halt hMove] at h
      cases h

/-- Taking a token in leaves as many operators to apply. -/
theorem operatorsLeft_of_move_shift (h : c.move length m = .shift next) :
    next.operatorsLeft = m.operatorsLeft := by
  rcases cases_move_shift h with ⟨n, rest, hPending, rfl⟩ | ⟨op, rest, hPending, rfl⟩
  · simp only [Machine.operatorsLeft, Machine.pushOperand, hPending, Token.operatorCount]
  · simp only [Machine.operatorsLeft, Machine.pushOperator, hPending, Token.operatorCount,
      List.length_cons]
    omega

/-- A reduction leaves one operator fewer. -/
theorem operatorsLeft_of_move_reduce {reduction : Reduction}
    (h : c.move length m = .reduce reduction next) :
    next.operatorsLeft + 1 = m.operatorsLeft := by
  obtain ⟨rest, below, hOperators, -, -, rfl⟩ := of_move_reduce h
  simp only [Machine.operatorsLeft, hOperators, List.length_cons]
  omega

/-- A run that ends with a value has applied every operator. -/
theorem length_reductions_of_ok {value : Float} (h : (c.run length m).outcome = .ok value) :
    (c.run length m).reductions.length = m.operatorsLeft := by
  induction m using induction_run c length with
  | shift m next hMove ih =>
      rw [run_of_shift hMove] at h ⊢
      rw [ih h, operatorsLeft_of_move_shift hMove]
  | reduce m reduction next hMove ih =>
      rw [run_of_reduce hMove] at h ⊢
      rw [List.length_cons, ih h, operatorsLeft_of_move_reduce hMove]
  | halt m outcome hMove =>
      rw [run_of_halt hMove] at h ⊢
      obtain rfl : outcome = .ok value := h
      obtain ⟨hPending, hOperators, -⟩ := of_move_halt_ok hMove
      rw [Machine.operatorsLeft, hPending, hOperators]
      rfl

/-- A run that ends because an operator cannot be applied has not applied that operator. -/
theorem length_reductions_of_error {failure : Failure}
    (h : (c.run length m).outcome = .error failure) (hFailure : failure ≠ .malformed length) :
    (c.run length m).reductions.length < m.operatorsLeft := by
  induction m using induction_run c length with
  | shift m next hMove ih =>
      rw [run_of_shift hMove] at h ⊢
      rw [← operatorsLeft_of_move_shift hMove]
      exact ih h
  | reduce m reduction next hMove ih =>
      rw [run_of_reduce hMove] at h ⊢
      rw [List.length_cons, ← operatorsLeft_of_move_reduce hMove]
      exact Nat.succ_lt_succ (ih h)
  | halt m outcome hMove =>
      rw [run_of_halt hMove] at h ⊢
      obtain rfl : outcome = .error failure := h
      rcases cases_move_halt hMove with ⟨value, hValue, -⟩ |
        ⟨op, below, left, right, same, -, hOperators, -⟩ | hMalformed
      · cases hValue
      · rw [Machine.operatorsLeft, hOperators, List.length_cons, Nat.succ_add]
        exact Nat.succ_pos _
      · exact absurd (Except.error.inj hMalformed) hFailure

end Reductions

end Calculator

end FlatArith
