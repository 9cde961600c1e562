import FlatArith.Proofs.Positions

/-!
# The failures of malformed lists

A list of tokens that is not well formed never has a value.  It fails as malformed unless the machine
divides by zero first, and there are two ways to that (`evaluate_or`):

* before it gets to the first fault, or to the end, the machine reads an operator behind a zero divisor,
  and that operator forces the division;
* the list ends in a division sign, which the machine then applies to the last term and the sum before
  it.  These two operands do not belong to that sign, and the term may be zero although the list has no
  zero divisor.
-/

namespace FlatArith

namespace Token

/-- A zero divisor stands before the first fault of a list, and so does the operator behind it. -/
def ForcedZeroDivisor (tokens : List Token) : Prop :=
  ∃ m, m % 2 = 1 ∧ m + 2 < tokens.length ∧ (∀ position ≤ m + 2, ¬ MisplacedAt tokens position) ∧
    ZeroDivisorAt tokens m

theorem forcedZeroDivisor_iff_of_firstMisplacedAt {tokens : List Token} {p : Nat}
    (h : FirstMisplacedAt tokens p) :
    ForcedZeroDivisor tokens ↔ ∃ m, m % 2 = 1 ∧ m + 2 < p ∧ ZeroDivisorAt tokens m := by
  have hLength : p < tokens.length := by
    obtain ⟨token, hToken, -⟩ := h.misplaced
    exact (List.getElem?_eq_some_iff.1 hToken).1
  constructor
  · rintro ⟨m, hOdd, -, hPlaced, hZero⟩
    refine ⟨m, hOdd, ?_, hZero⟩
    by_contra hBound
    exact hPlaced p (Nat.le_of_not_lt hBound) h.misplaced
  · rintro ⟨m, hOdd, hBound, hZero⟩
    exact ⟨m, hOdd, by omega, fun position hPosition => h.first position (by omega), hZero⟩

theorem forcedZeroDivisor_iff_of_placed {tokens : List Token}
    (h : ∀ position, ¬ MisplacedAt tokens position) :
    ForcedZeroDivisor tokens ↔
      ∃ m, m % 2 = 1 ∧ m + 2 < tokens.length ∧ ZeroDivisorAt tokens m := by
  constructor
  · rintro ⟨m, hOdd, hBound, -, hZero⟩
    exact ⟨m, hOdd, hBound, hZero⟩
  · rintro ⟨m, hOdd, hBound, hZero⟩
    exact ⟨m, hOdd, hBound, fun position _ => h position, hZero⟩

theorem not_forcedZeroDivisor_of_blocked {tokens : List Token} (h : Blocked tokens) :
    ¬ ForcedZeroDivisor tokens := by
  obtain ⟨p, hp, hFirst⟩ := h.exists_firstMisplacedAt
  rw [forcedZeroDivisor_iff_of_firstMisplacedAt hFirst]
  rintro ⟨m, -, hBound, -⟩
  omega

/-- What an operator behind a chain forces are the zero divisors of the chain. -/
theorem forcedZeroDivisor_chain_iff (chain : Chain Float) (op : Operator) {rest : List Token}
    (h : rest = [] ∨ Blocked rest) :
    ForcedZeroDivisor (chain.tokens ++ .operator op :: rest) ↔ chain.HasZeroDivisor := by
  have hLength := chain.length_tokens
  rw [← chain.exists_zeroDivisorAt_iff (.operator op :: rest)]
  constructor
  · rintro ⟨m, hOdd, hBound, hPlaced, hZero⟩
    refine ⟨m, hOdd, ?_, hZero⟩
    rcases h with rfl | hBlocked
    · rw [List.length_append, List.length_singleton] at hBound
      omega
    · obtain ⟨p, hp, hFirst⟩ := hBlocked.exists_firstMisplacedAt
      have hFault := (chain.firstMisplacedAt_operator op hFirst).misplaced
      by_contra hOutside
      exact hPlaced _ (by omega) hFault
  · rintro ⟨m, hOdd, hInside, hZero⟩
    refine ⟨m, hOdd, ?_, fun position hPosition => ?_, hZero⟩
    · rw [List.length_append, List.length_cons]
      omega
    · exact chain.not_misplacedAt_operator op rest (by omega)

end Token

theorem Chain.append_operator_inj {first second : Chain Float} {op last : Operator}
    (h : first.tokens ++ [.operator op] = second.tokens ++ [.operator last]) :
    first = second ∧ op = last := by
  obtain ⟨hTokens, hLast⟩ := List.append_inj' h rfl
  have hChain := congrArg Chain.ofTokens? hTokens
  simp only [Chain.ofTokens?_tokens, Option.some.injEq] at hChain
  cases hLast
  exact ⟨hChain, rfl⟩

namespace Calculator

variable (c : Calculator)

/-- The list is a sum of terms with a division sign at its end, and the last term has the value zero. -/
def EndsInZeroTerm (tokens : List Token) : Prop :=
  ∃ chain link value, tokens = Chain.tokens chain ++ [.operator .divide] ∧
    chain.terms.tail.getLast? = some link ∧ link.2.foldM c.apply = .ok value ∧ IsZero value

/-- No token of a list that ends in a zero term is misplaced. -/
theorem EndsInZeroTerm.placed {c : Calculator} {tokens : List Token} (h : c.EndsInZeroTerm tokens)
    (position : Nat) : ¬ Token.MisplacedAt tokens position := by
  obtain ⟨chain, -, -, rfl, -, -, -⟩ := h
  rintro ⟨token, hToken, hMisplaced⟩
  have hLength := (List.getElem?_eq_some_iff.1 hToken).1
  rw [List.length_append, List.length_singleton] at hLength
  exact chain.not_misplacedAt_operator .divide [] hLength ⟨token, hToken, hMisplaced⟩

section Runs

variable (length : Nat)

theorem run_blocked {rest : List Token} (h : Token.Blocked rest) (frames : List Frame) :
    c.run length (.beforeOperand frames rest) = ⟨[], .error (.malformed length)⟩ := by
  cases h with
  | operator op rest => exact c.run_operator_misplaced length frames op rest
  | number n m rest => rw [run_number, run_number_misplaced]

/-- With one frame and no further operand there is nothing to apply the operator to. -/
theorem run_end_of_single (frame : Frame) :
    c.run length (.beforeOperand [frame] []) = ⟨[], .error (.malformed length)⟩ :=
  run_of_halt rfl

/-- With two frames and no further operand the upper operator is applied to the two left operands. -/
theorem run_end_of_pair (upper lower : Frame) :
    c.run length (.beforeOperand [upper, lower] []) =
      c.perform upper.operator lower.left upper.left >>= fun _ =>
        ⟨[], .error (.malformed length)⟩ := by
  rw [c.run_of_applying length (c.move_end_operator length upper lower [])]
  exact bind_congr fun result => c.run_end_of_single length ⟨result, lower.operator⟩

end Runs

/-- An additive operator behind a chain finds the sum of the chain and waits for a further term. -/
theorem exists_load_of_isAdditive {op : Operator} (h : op.isAdditive = true)
    {state : List Frame × Float} (hState : IsSum state.1) :
    ∃ sum, (c.load state.1 state.2 op).outcome = .ok [⟨sum, op⟩] := by
  obtain ⟨sum, hSum⟩ := c.exists_close hState state.2
  refine ⟨sum, ?_⟩
  rw [c.load_of_isAdditive h, Run.outcome_bind_of_ok hSum, Run.outcome_pure]

/-- A multiplicative operator behind a chain takes the last term as its left operand. -/
theorem load_of_sum {op : Operator} (h : op.isAdditive = false) {state : List Frame × Float}
    (hState : IsSum state.1) :
    (c.load state.1 state.2 op).outcome = .ok (⟨state.2, op⟩ :: state.1) := by
  have hLoad := c.load_of_not_isAdditive h .nil hState state.2
  rw [List.nil_append, close_nil, pure_bind] at hLoad
  rw [hLoad, Run.outcome_pure]

/-- Behind a chain with a zero divisor an operator forces the division. -/
theorem evaluate_chain_operator_of_hasZeroDivisor {chain : Chain Float} (h : chain.HasZeroDivisor)
    (op : Operator) (rest : List Token) :
    c.evaluate (chain.tokens ++ .operator op :: rest) = .error .divisionByZero := by
  rw [evaluate, runTokens, c.run_chain_operator,
    Run.outcome_bind_of_error (c.readTerms_of_hasZeroDivisor h)]

/-- Behind a chain without a zero divisor and an operator a fault is reported as such. -/
theorem evaluate_chain_operator_blocked {chain : Chain Float} (h : ¬ chain.HasZeroDivisor)
    (op : Operator) {rest : List Token} (hRest : Token.Blocked rest) :
    c.evaluate (chain.tokens ++ .operator op :: rest) =
      .error (.malformed (chain.tokens ++ .operator op :: rest).length) := by
  obtain ⟨state, hState, hRead⟩ := c.exists_readTerms h
  have hLoad : ∃ frames, (c.load state.1 state.2 op).outcome = .ok frames := by
    cases hOp : op.isAdditive with
    | true =>
        obtain ⟨sum, hSum⟩ := c.exists_load_of_isAdditive hOp hRead.isSum
        exact ⟨_, hSum⟩
    | false => exact ⟨_, c.load_of_sum hOp hRead.isSum⟩
  obtain ⟨frames, hFrames⟩ := hLoad
  rw [evaluate, runTokens, c.run_chain_operator, Run.outcome_bind_of_ok hState,
    Run.outcome_bind_of_ok hFrames, c.run_blocked _ hRest]

/-- A chain and an operator at the end of the list: the operator is applied if the chain is a sum and
the operator multiplicative, and that fails only for a division by a last term that is zero. -/
theorem evaluate_chain_operator_end {chain : Chain Float} (h : ¬ chain.HasZeroDivisor)
    (op : Operator) :
    (c.EndsInZeroTerm (chain.tokens ++ [.operator op]) ∧
        c.evaluate (chain.tokens ++ [.operator op]) = .error .divisionByZero) ∨
      (¬ c.EndsInZeroTerm (chain.tokens ++ [.operator op]) ∧
        c.evaluate (chain.tokens ++ [.operator op]) =
          .error (.malformed (chain.tokens ++ [Token.operator op]).length)) := by
  obtain ⟨⟨frames, value⟩, hState, hRead⟩ := c.exists_readTerms h
  -- The value on top of the frames is that of the last term, if there is more than one.
  have hEnds : c.EndsInZeroTerm (chain.tokens ++ [.operator op]) ↔
      op = .divide ∧ ∃ link, chain.terms.tail.getLast? = some link ∧ IsZero value := by
    constructor
    · rintro ⟨other, link, term, hTokens, hLink, hTerm, hZero⟩
      obtain ⟨rfl, rfl⟩ := Chain.append_operator_inj hTokens
      rw [TermsRead, hLink] at hRead
      obtain rfl : value = term := Except.ok.inj (hRead.1.symm.trans hTerm)
      exact ⟨rfl, link, hLink, hZero⟩
    · rintro ⟨rfl, link, hLink, hZero⟩
      rw [TermsRead, hLink] at hRead
      exact ⟨chain, link, value, rfl, hLink, hRead.1, hZero⟩
  rw [hEnds, evaluate, runTokens, c.run_chain_operator, Run.outcome_bind_of_ok hState]
  cases hOp : op.isAdditive with
  | true =>
      -- The operator has closed the sum, and its own frame finds no second operand.
      obtain ⟨sum, hSum⟩ := c.exists_load_of_isAdditive hOp hRead.isSum
      rw [Run.outcome_bind_of_ok hSum, run_end_of_single]
      refine .inr ⟨?_, rfl⟩
      rintro ⟨rfl, -⟩
      cases hOp
  | false =>
      rw [Run.outcome_bind_of_ok (c.load_of_sum hOp hRead.isSum)]
      cases hTerms : chain.terms.tail.getLast? with
      | none =>
          rw [TermsRead, hTerms] at hRead
          obtain rfl : frames = [] := hRead
          rw [run_end_of_single]
          refine .inr ⟨?_, rfl⟩
          rintro ⟨-, link, hLink, -⟩
          cases hLink
      | some link =>
          -- The operator is applied to the sum before the last joint and the term after it.
          rw [TermsRead, hTerms] at hRead
          obtain ⟨-, sum, rfl⟩ : _ ∧ ∃ sum, frames = [⟨sum, link.1⟩] := hRead
          rw [run_end_of_pair]
          by_cases hDivides : dividesByZero op value = true
          · rw [Run.outcome_bind_of_error (apply_of_dividesByZero hDivides)]
            obtain ⟨rfl, hZero⟩ := dividesByZero_iff.1 hDivides
            exact .inl ⟨⟨rfl, link, rfl, hZero⟩, rfl⟩
          · obtain ⟨result, hResult⟩ := c.exists_apply hDivides sum
            rw [Run.outcome_bind_of_ok hResult]
            refine .inr ⟨?_, rfl⟩
            rintro ⟨rfl, -, -, hZero⟩
            exact hDivides (dividesByZero_iff.2 ⟨rfl, hZero⟩)

/-- The two outcomes of a list that is not well formed. -/
theorem evaluate_or {tokens : List Token} (h : ¬ Token.WellFormed tokens) :
    ((Token.ForcedZeroDivisor tokens ∨ c.EndsInZeroTerm tokens) ∧
        c.evaluate tokens = .error .divisionByZero) ∨
      (¬ (Token.ForcedZeroDivisor tokens ∨ c.EndsInZeroTerm tokens) ∧
        c.evaluate tokens = .error (.malformed tokens.length)) := by
  rcases Token.cases_blocked tokens with rfl | hBlocked | ⟨chain, rfl⟩ |
    ⟨chain, op, rest, rfl, hRest⟩
  · refine .inr ⟨?_, congrArg Run.outcome (run_of_halt rfl)⟩
    rintro (⟨m, -, hBound, -⟩ | ⟨chain, link, value, hTokens, -⟩)
    · exact Nat.not_lt_zero _ hBound
    · exact List.append_ne_nil_of_right_ne_nil _ (List.cons_ne_nil _ _) hTokens.symm
  · refine .inr ⟨?_, congrArg Run.outcome (c.run_blocked tokens.length hBlocked [])⟩
    rintro (hForced | hEnds)
    · exact Token.not_forcedZeroDivisor_of_blocked hBlocked hForced
    · obtain ⟨p, -, hFirst⟩ := hBlocked.exists_firstMisplacedAt
      exact hEnds.placed p hFirst.misplaced
  · exact absurd (Chain.wellFormed_iff_exists_tokens.2 ⟨chain, rfl⟩) h
  · rw [Token.forcedZeroDivisor_chain_iff chain op hRest]
    by_cases hZero : chain.HasZeroDivisor
    · exact .inl ⟨.inl hZero, c.evaluate_chain_operator_of_hasZeroDivisor hZero op rest⟩
    · rw [or_iff_right hZero]
      rcases hRest with rfl | hBlocked
      · exact c.evaluate_chain_operator_end hZero op
      · refine .inr ⟨fun hEnds => ?_, c.evaluate_chain_operator_blocked hZero op hBlocked⟩
        obtain ⟨p, -, hFirst⟩ := hBlocked.exists_firstMisplacedAt
        exact hEnds.placed _ (chain.firstMisplacedAt_operator op hFirst).misplaced

theorem evaluate_eq_divisionByZero_iff {tokens : List Token} (h : ¬ Token.WellFormed tokens) :
    c.evaluate tokens = .error .divisionByZero ↔
      Token.ForcedZeroDivisor tokens ∨ c.EndsInZeroTerm tokens := by
  rcases c.evaluate_or h with ⟨hZero, hOutcome⟩ | ⟨hZero, hOutcome⟩
  · exact ⟨fun _ => hZero, fun _ => hOutcome⟩
  · rw [hOutcome]
    exact ⟨nofun, fun hIs => absurd hIs hZero⟩

/-- Two lists of one length that agree before their first faults, which stand at one position, fail
alike. -/
theorem evaluate_congr_of_firstMisplacedAt {tokens other : List Token} {p : Nat}
    (hTokens : Token.FirstMisplacedAt tokens p) (hOther : Token.FirstMisplacedAt other p)
    (hTake : other.take p = tokens.take p) (hLength : other.length = tokens.length) :
    c.evaluate other = c.evaluate tokens := by
  have hForced : Token.ForcedZeroDivisor other ↔ Token.ForcedZeroDivisor tokens := by
    rw [Token.forcedZeroDivisor_iff_of_firstMisplacedAt hOther,
      Token.forcedZeroDivisor_iff_of_firstMisplacedAt hTokens]
    refine exists_congr fun m => and_congr_right fun _ => and_congr_right fun hBound => ?_
    rw [← Token.zeroDivisorAt_take (by omega : m + 1 < p), hTake,
      Token.zeroDivisorAt_take (by omega)]
  have hMalformed : ∀ {list : List Token}, Token.FirstMisplacedAt list p →
      ¬ Token.WellFormed list := fun hFirst hWellFormed =>
    ((Token.wellFormed_iff _).1 hWellFormed).2 p hFirst.misplaced
  have hEnds : ∀ {list : List Token}, Token.FirstMisplacedAt list p →
      ¬ c.EndsInZeroTerm list := fun hFirst hEnds => hEnds.placed p hFirst.misplaced
  -- Both lists fail in one of the same two ways, and the zero divisors before `p` say in which.
  rcases c.evaluate_or (hMalformed hTokens) with ⟨hZero, hOutcome⟩ | ⟨hZero, hOutcome⟩
  · rw [hOutcome, c.evaluate_eq_divisionByZero_iff (hMalformed hOther), hForced]
    exact .inl (hZero.resolve_right (hEnds hTokens))
  · rcases c.evaluate_or (hMalformed hOther) with ⟨hIs, -⟩ | ⟨-, hOtherOutcome⟩
    · exact absurd (.inl (hForced.1 (hIs.resolve_right (hEnds hOther)))) hZero
    · rw [hOutcome, hOtherOutcome, hLength]

/-- A list that is not well formed is reported as malformed exactly when no operator before its first
fault forces a division by zero and it does not end in a zero term. -/
theorem evaluate_eq_malformed_iff (c : Calculator) {tokens : List Token}
    (h : ¬ Token.WellFormed tokens) :
    c.evaluate tokens = .error (.malformed tokens.length) ↔
      ¬ Token.ForcedZeroDivisor tokens ∧ ¬ c.EndsInZeroTerm tokens := by
  rw [← not_or]
  rcases c.evaluate_or h with ⟨hZero, hOutcome⟩ | ⟨hZero, hOutcome⟩
  · rw [hOutcome]
    exact ⟨nofun, fun hNot => absurd hZero hNot⟩
  · exact ⟨fun _ => hZero, fun _ => hOutcome⟩

/-- Two operators side by side, and no division. -/
theorem evaluate_eq_malformed_doubled :
    ¬ Token.WellFormed [.number 1, .operator .plus, .operator .plus, .number 2] ∧
      standard.evaluate [.number 1, .operator .plus, .operator .plus, .number 2] =
        .error (.malformed 4) := by
  have hMalformed :
      ¬ Token.WellFormed [.number 1, .operator .plus, .operator .plus, .number 2] := by
    simp [Token.WellFormed, Token.WellFormedFrom, Slot.Fits, Slot.other]
  refine ⟨hMalformed, (evaluate_eq_malformed_iff standard hMalformed).2 ⟨?_, ?_⟩⟩
  · rintro ⟨m, hOdd, hBound, -, hDivide, -⟩
    obtain rfl : m = 1 := by simp at hBound; omega
    cases hDivide
  · rintro hEnds
    exact hEnds.placed 2 ⟨_, rfl, id⟩

/-- An operator missing its right operand: the sum of one and zero, and a division sign.  The list has
no zero divisor, yet it fails as if it had. -/
theorem not_forall_evaluate_malformed :
    ¬ ∀ (c : Calculator) (tokens : List Token), ¬ Token.WellFormed tokens →
      c.evaluate tokens = .error (.malformed tokens.length) := by
  intro h
  have hOutcome : standard.evaluate [.number 1, .operator .plus, .number 0, .operator .divide] =
      .error .divisionByZero := by
    cbv
  have hMalformed :
      ¬ Token.WellFormed [.number 1, .operator .plus, .number 0, .operator .divide] := by
    simp [Token.WellFormed, Token.WellFormedFrom, Slot.Fits, Slot.other]
  rw [h standard _ hMalformed] at hOutcome
  cases hOutcome

/-- The failure of a list that is not well formed.  Up to the first fault only the zero divisors count
behind which an operator has been read; if there is no fault before the end, the last division sign
counts too when it stands behind a sum whose last term is zero. -/
theorem evaluate_of_not_wellFormed (c : Calculator) {tokens : List Token}
    (h : ¬ Token.WellFormed tokens) :
    (c.evaluate tokens = .error (.malformed tokens.length) ∨
        c.evaluate tokens = .error .divisionByZero) ∧
      (∀ p, Token.FirstMisplacedAt tokens p →
        (c.evaluate tokens = .error .divisionByZero ↔
            ∃ m, m % 2 = 1 ∧ m + 2 < p ∧ Token.ZeroDivisorAt tokens m) ∧
          ∀ other, Token.FirstMisplacedAt other p → other.take p = tokens.take p →
            other.length = tokens.length → c.evaluate other = c.evaluate tokens) ∧
      ((∀ p, ¬ Token.MisplacedAt tokens p) →
        (c.evaluate tokens = .error .divisionByZero ↔
          (∃ m, m % 2 = 1 ∧ m + 2 < tokens.length ∧ Token.ZeroDivisorAt tokens m) ∨
            c.EndsInZeroTerm tokens)) := by
  refine ⟨?_, fun p hFirst => ⟨?_, fun other hOther hTake hLength => ?_⟩, fun hPlaced => ?_⟩
  · rcases c.evaluate_or h with ⟨-, hOutcome⟩ | ⟨-, hOutcome⟩
    · exact .inr hOutcome
    · exact .inl hOutcome
  · rw [c.evaluate_eq_divisionByZero_iff h, or_iff_left fun hEnds => hEnds.placed p hFirst.misplaced,
      Token.forcedZeroDivisor_iff_of_firstMisplacedAt hFirst]
  · exact c.evaluate_congr_of_firstMisplacedAt hFirst hOther hTake hLength
  · rw [c.evaluate_eq_divisionByZero_iff h, Token.forcedZeroDivisor_iff_of_placed hPlaced]

/-- Two operators side by side, after a division by zero: the first of them forces the division. -/
theorem evaluate_of_not_wellFormed_forced :
    ¬ Token.WellFormed [.number 1, .operator .divide, .number 0, .operator .plus, .operator .plus] ∧
      standard.evaluate
        [.number 1, .operator .divide, .number 0, .operator .plus, .operator .plus] =
          .error .divisionByZero := by
  have hFirst : Token.FirstMisplacedAt
      [.number 1, .operator .divide, .number 0, .operator .plus, .operator .plus] 4 :=
    Chain.firstMisplacedAt_operator ⟨1, [(.divide, 0)]⟩ .plus
      ⟨⟨.operator .plus, rfl, id⟩, fun earlier hEarlier => absurd hEarlier (Nat.not_lt_zero _)⟩
  have hMalformed : ¬ Token.WellFormed
      [.number 1, .operator .divide, .number 0, .operator .plus, .operator .plus] :=
    fun hWellFormed => ((Token.wellFormed_iff _).1 hWellFormed).2 4 hFirst.misplaced
  have hExact := ((evaluate_of_not_wellFormed standard hMalformed).2.1 4 hFirst).1
  exact ⟨hMalformed, hExact.2 ⟨1, rfl, by omega, rfl, 0, rfl, .inl rfl⟩⟩

end Calculator

end FlatArith
