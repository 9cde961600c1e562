import FlatArith.Proofs.Comparisons
import FlatArith.Proofs.Grammar

/-!
# Zero divisors of a chain

A chain has a zero divisor when a division sign stands before a number that is zero.  Within a term the
right operand of every application is a number of the chain, and between terms nothing is divided, so
a chain fails exactly by its zero divisors, whatever the limit of the calculator and whatever the values
on the way (`readTerms_of_hasZeroDivisor`, `exists_readTerms`).
-/

namespace FlatArith

namespace Calculator

theorem dividesByZero_iff {op : Operator} {n : Float} :
    dividesByZero op n = true ↔ op = .divide ∧ IsZero n := by
  rw [dividesByZero, Bool.and_eq_true, beq_iff_eq, beq_zero_iff]

theorem not_dividesByZero_of_isAdditive {op : Operator} (h : op.isAdditive = true) (n : Float) :
    ¬ dividesByZero op n = true := by
  rw [dividesByZero_iff]
  rintro ⟨rfl, -⟩
  cases h

theorem exists_apply (c : Calculator) {op : Operator} {right : Float}
    (h : ¬ dividesByZero op right = true) (left : Float) :
    ∃ result, c.apply op left right = .ok result :=
  ⟨_, if_neg h⟩

/-- An application fails only by a division. -/
theorem dividesByZero_of_apply {c : Calculator} {op : Operator} {left right : Float}
    {failure : Failure} (h : c.apply op left right = .error failure) :
    dividesByZero op right = true := by
  by_contra hNot
  obtain ⟨result, hResult⟩ := c.exists_apply hNot left
  rw [hResult] at h
  cases h

theorem eq_divisionByZero_of_apply {c : Calculator} {op : Operator} {left right : Float}
    {failure : Failure} (h : c.apply op left right = .error failure) : failure = .divisionByZero := by
  rw [apply_of_dividesByZero (dividesByZero_of_apply h)] at h
  exact (Except.error.inj h).symm

end Calculator

namespace Chain

/-- A division sign stands before a number that is zero. -/
def HasZeroDivisor (chain : Chain Float) : Prop :=
  ∃ link ∈ chain.tail, Calculator.dividesByZero link.1 link.2 = true

/-- A chain folds without failure or fails by a division, as its zero divisors say. -/
theorem foldM_apply_of_hasZeroDivisor (c : Calculator) {chain : Chain Float}
    (h : chain.HasZeroDivisor) : chain.foldM c.apply = .error .divisionByZero := by
  obtain ⟨head, links⟩ := chain
  show links.foldlM (fun left link => c.apply link.1 left link.2) head = _
  induction links generalizing head with
  | nil => obtain ⟨link, hLink, -⟩ := h; cases hLink
  | cons first rest ih =>
      rw [List.foldlM_cons]
      by_cases hFirst : Calculator.dividesByZero first.1 first.2 = true
      · rw [Calculator.apply_of_dividesByZero hFirst]
        rfl
      · obtain ⟨result, hResult⟩ := c.exists_apply hFirst head
        rw [hResult]
        obtain ⟨link, hLink, hZero⟩ := h
        rcases List.mem_cons.1 hLink with rfl | hLater
        · exact absurd hZero hFirst
        · exact ih result ⟨link, hLater, hZero⟩

theorem exists_foldM_apply (c : Calculator) {chain : Chain Float} (h : ¬ chain.HasZeroDivisor) :
    ∃ value, chain.foldM c.apply = .ok value := by
  obtain ⟨head, links⟩ := chain
  show ∃ value, links.foldlM (fun left link => c.apply link.1 left link.2) head = .ok value
  induction links generalizing head with
  | nil => exact ⟨head, rfl⟩
  | cons first rest ih =>
      have hFirst : ¬ Calculator.dividesByZero first.1 first.2 = true := fun hZero =>
        h ⟨first, List.mem_cons_self, hZero⟩
      obtain ⟨result, hResult⟩ := c.exists_apply hFirst head
      obtain ⟨value, hValue⟩ := ih result fun ⟨link, hLink, hZero⟩ =>
        h ⟨link, List.mem_cons_of_mem _ hLink, hZero⟩
      exact ⟨value, by rw [List.foldlM_cons, hResult]; exact hValue⟩

/-- The links of a chain are those of its first term, and for each later term its joint and its own. -/
theorem eq_of_cutLinks {α : Type} (links : List (Operator × α)) :
    links = (cutLinks links).1 ++
      (cutLinks links).2.flatMap fun link => (link.1, link.2.head) :: link.2.tail := by
  induction links with
  | nil => rfl
  | cons link rest ih =>
      obtain ⟨op, a⟩ := link
      cases hOp : op.isAdditive with
      | true =>
          rw [cutLinks_cons_of_isAdditive hOp, List.nil_append, List.flatMap_cons, List.cons_append,
            ← ih]
      | false => rw [cutLinks_cons_of_not_isAdditive hOp, List.cons_append, ← ih]

/-- A zero divisor of a chain stands inside one of its terms. -/
theorem hasZeroDivisor_iff_terms (chain : Chain Float) :
    chain.HasZeroDivisor ↔
      chain.terms.head.HasZeroDivisor ∨ ∃ link ∈ chain.terms.tail, link.2.HasZeroDivisor := by
  have hJoint : ∀ link ∈ (cutLinks chain.tail).2,
      ¬ Calculator.dividesByZero link.1 link.2.head = true := fun link hLink =>
    Calculator.not_dividesByZero_of_isAdditive (isAdditive_of_mem_terms hLink) _
  unfold HasZeroDivisor
  constructor
  · rintro ⟨link, hLink, hZero⟩
    rw [eq_of_cutLinks chain.tail, List.mem_append, List.mem_flatMap] at hLink
    -- A joint between terms is additive and divides nothing.
    rcases hLink with hFirst | ⟨term, hTerm, hLink⟩
    · exact .inl ⟨link, hFirst, hZero⟩
    · rcases List.mem_cons.1 hLink with rfl | hLink
      · exact absurd hZero (hJoint term hTerm)
      · exact .inr ⟨term, hTerm, link, hLink, hZero⟩
  · intro h
    rw [eq_of_cutLinks chain.tail]
    rcases h with ⟨link, hLink, hZero⟩ | ⟨term, hTerm, link, hLink, hZero⟩
    · exact ⟨link, List.mem_append_left _ hLink, hZero⟩
    · exact ⟨link, List.mem_append_right _
        (List.mem_flatMap.2 ⟨term, hTerm, List.mem_cons_of_mem _ hLink⟩), hZero⟩

end Chain

namespace Calculator

variable (c : Calculator)

/-- Closing a sum never fails. -/
theorem exists_close {frames : List Frame} (h : IsSum frames) (n : Float) :
    ∃ value, (c.close frames n).outcome = .ok value := by
  induction frames generalizing n with
  | nil => exact ⟨n, rfl⟩
  | cons frame below ih =>
      obtain ⟨result, hResult⟩ :=
        c.exists_apply_of_isAdditive (h frame List.mem_cons_self) frame.left n
      obtain ⟨value, hValue⟩ :=
        ih (fun later hLater => h later (List.mem_cons_of_mem _ hLater)) result
      refine ⟨value, ?_⟩
      rw [close_cons, Run.outcome_bind_of_ok hResult]
      exact hValue

/-- The next term fails if it has a zero divisor. -/
theorem nextTerm_of_hasZeroDivisor {state : List Frame × Float} {link : Operator × Chain Float}
    (hState : IsSum state.1)
    (h : link.2.HasZeroDivisor) : (c.nextTerm state link).outcome = .error .divisionByZero := by
  obtain ⟨sum, hSum⟩ := c.exists_close hState state.2
  have hTerm := (c.outcome_foldM_perform link.2).trans (Chain.foldM_apply_of_hasZeroDivisor c h)
  rw [nextTerm, Run.outcome_bind_of_ok hSum, Run.outcome_bind_of_error hTerm]

/-- The next term has a value if it has no zero divisor. -/
theorem exists_nextTerm {state : List Frame × Float} {link : Operator × Chain Float}
    (hState : IsSum state.1)
    (h : ¬ link.2.HasZeroDivisor) :
    ∃ sum value, (c.nextTerm state link).outcome = .ok ([⟨sum, link.1⟩], value) ∧
      link.2.foldM c.apply = .ok value := by
  obtain ⟨sum, hSum⟩ := c.exists_close hState state.2
  obtain ⟨value, hValue⟩ := Chain.exists_foldM_apply c h
  have hTerm := (c.outcome_foldM_perform link.2).trans hValue
  refine ⟨sum, value, ?_, hValue⟩
  rw [nextTerm, Run.outcome_bind_of_ok hSum, Run.outcome_bind_of_ok hTerm]
  rfl

theorem foldlM_nextTerm_of_hasZeroDivisor {later : List (Operator × Chain Float)}
    (hJoints : ∀ link ∈ later, link.1.isAdditive = true)
    (h : ∃ link ∈ later, link.2.HasZeroDivisor) (state : List Frame × Float)
    (hState : IsSum state.1) :
    (later.foldlM c.nextTerm state).outcome = .error .divisionByZero := by
  induction later generalizing state with
  | nil => obtain ⟨link, hLink, -⟩ := h; cases hLink
  | cons first rest ih =>
      rw [List.foldlM_cons]
      -- Either the next term fails, or it is read and one of those after it fails.
      by_cases hFirst : first.2.HasZeroDivisor
      · rw [Run.outcome_bind_of_error (c.nextTerm_of_hasZeroDivisor hState hFirst)]
      · obtain ⟨sum, value, hNext, -⟩ := c.exists_nextTerm hState hFirst
        rw [Run.outcome_bind_of_ok hNext]
        obtain ⟨link, hLink, hZero⟩ := h
        rcases List.mem_cons.1 hLink with rfl | hLater
        · exact absurd hZero hFirst
        · refine ih (fun later hLater => hJoints later (List.mem_cons_of_mem _ hLater))
            ⟨link, hLater, hZero⟩ _ ?_
          exact .singleton (hJoints first List.mem_cons_self) sum

/-- Terms without zero divisors are read to the end.  Unless there are none, the sum waits at the last
joint for the value of the last term. -/
theorem exists_foldlM_nextTerm {later : List (Operator × Chain Float)}
    (hJoints : ∀ link ∈ later, link.1.isAdditive = true)
    (h : ∀ link ∈ later, ¬ link.2.HasZeroDivisor) (state : List Frame × Float)
    (hState : IsSum state.1) :
    ∃ after, (later.foldlM c.nextTerm state).outcome = .ok after ∧
      match later.getLast? with
      | none => after = state
      | some link => link.2.foldM c.apply = .ok after.2 ∧ ∃ sum, after.1 = [⟨sum, link.1⟩] := by
  induction later generalizing state with
  | nil => exact ⟨state, rfl, rfl⟩
  | cons first rest ih =>
      obtain ⟨sum, value, hNext, hValue⟩ := c.exists_nextTerm hState (h first List.mem_cons_self)
      obtain ⟨after, hAfter, hLast⟩ := ih
        (fun later hLater => hJoints later (List.mem_cons_of_mem _ hLater))
        (fun later hLater => h later (List.mem_cons_of_mem _ hLater))
        ([⟨sum, first.1⟩], value) (.singleton (hJoints first List.mem_cons_self) sum)
      refine ⟨after, ?_, ?_⟩
      · rw [List.foldlM_cons, Run.outcome_bind_of_ok hNext]
        exact hAfter
      · rw [List.getLast?_cons]
        cases hRest : rest.getLast? with
        | none =>
            rw [hRest] at hLast
            subst hLast
            exact ⟨hValue, sum, rfl⟩
        | some link =>
            rw [hRest] at hLast
            exact hLast

/-- Reading the terms of a chain with a zero divisor fails. -/
theorem readTerms_of_hasZeroDivisor {chain : Chain Float} (h : chain.HasZeroDivisor) :
    (c.readTerms chain).outcome = .error .divisionByZero := by
  have hFold := c.outcome_foldM_perform chain.terms.head
  by_cases hHead : chain.terms.head.HasZeroDivisor
  · rw [Chain.foldM_apply_of_hasZeroDivisor c hHead] at hFold
    rw [readTerms, Run.outcome_bind_of_error hFold]
  · obtain ⟨value, hValue⟩ := Chain.exists_foldM_apply c hHead
    have hLater := ((Chain.hasZeroDivisor_iff_terms chain).1 h).resolve_left hHead
    rw [readTerms, Run.outcome_bind_of_ok (hFold.trans hValue)]
    exact c.foldlM_nextTerm_of_hasZeroDivisor (fun link => Chain.isAdditive_of_mem_terms) hLater _
      .nil

/-- The state in which the terms of a chain have been read.  If the chain is a sum, the sum waits at its
last joint for the value of the last term. -/
def TermsRead (chain : Chain Float) (state : List Frame × Float) : Prop :=
  match chain.terms.tail.getLast? with
  | none => state.1 = []
  | some link => link.2.foldM c.apply = .ok state.2 ∧ ∃ sum, state.1 = [⟨sum, link.1⟩]

/-- The terms of a chain without a zero divisor are read to the end. -/
theorem exists_readTerms {chain : Chain Float} (h : ¬ chain.HasZeroDivisor) :
    ∃ state, (c.readTerms chain).outcome = .ok state ∧ c.TermsRead chain state := by
  rw [Chain.hasZeroDivisor_iff_terms, not_or] at h
  obtain ⟨first, hFirst⟩ := Chain.exists_foldM_apply c h.1
  have hFold := (c.outcome_foldM_perform chain.terms.head).trans hFirst
  obtain ⟨state, hState, hLast⟩ := c.exists_foldlM_nextTerm
    (fun link => Chain.isAdditive_of_mem_terms) (fun link hLink hZero => h.2 ⟨link, hLink, hZero⟩)
    ([], first) .nil
  refine ⟨state, ?_, ?_⟩
  · rw [readTerms, Run.outcome_bind_of_ok hFold]
    exact hState
  · unfold TermsRead
    cases hTerms : chain.terms.tail.getLast? with
    | none =>
        rw [hTerms] at hLast
        exact congrArg Prod.fst hLast
    | some link =>
        rw [hTerms] at hLast
        exact hLast

/-- Where terms have been read, the frames are those of a sum. -/
theorem TermsRead.isSum {c : Calculator} {chain : Chain Float} {state : List Frame × Float}
    (h : c.TermsRead chain state) : IsSum state.1 := by
  unfold TermsRead at h
  cases hTerms : chain.terms.tail.getLast? with
  | none =>
      rw [hTerms] at h
      rw [h]
      exact .nil
  | some link =>
      rw [hTerms] at h
      obtain ⟨-, sum, hState⟩ := h
      rw [hState]
      exact .singleton (Chain.isAdditive_of_mem_terms (List.mem_of_getLast? hTerms)) sum

/-- A chain with a zero divisor fails. -/
theorem evaluate_of_hasZeroDivisor {chain : Chain Float} (h : chain.HasZeroDivisor) :
    c.evaluate chain.tokens = .error .divisionByZero := by
  rw [evaluate, c.runTokens_eq_readTerms,
    Run.outcome_bind_of_error (c.readTerms_of_hasZeroDivisor h)]

/-- A chain without a zero divisor has a value. -/
theorem exists_evaluate {chain : Chain Float} (h : ¬ chain.HasZeroDivisor) :
    ∃ value, c.evaluate chain.tokens = .ok value := by
  obtain ⟨state, hState, hRead⟩ := c.exists_readTerms h
  obtain ⟨value, hValue⟩ := c.exists_close hRead.isSum state.2
  refine ⟨value, ?_⟩
  rw [evaluate, c.runTokens_eq_readTerms, Run.outcome_bind_of_ok hState, hValue]

end Calculator

end FlatArith
