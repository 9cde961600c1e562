import FlatArith.Proofs.Comparisons
import FlatArith.Proofs.Positions

/-!
# Evaluation within the limit

The plain evaluation of a chain has two passes: it folds each term, then the values of the terms,
both in plain binary64 arithmetic.  `Chain.plainApplications` lists the applications that it makes.
If none of them has an operand beyond the limit, nothing is ever replaced, and the machine finds the
plain value (`evaluate_of_withinLimit`).

Nothing is beyond a limit that is positive infinity or not a number.  So with such a limit the
machine does plain arithmetic on every list without a zero divisor.
-/

namespace FlatArith

namespace Chain

variable {α β : Type}

/-- The applications that combining links from the left makes, each with its operator and its
operands. -/
def applicationsFrom (f : Operator → α → α → α) : α → List (Operator × α) → List (Operator × α × α)
  | _, [] => []
  | left, (op, right) :: rest => (op, left, right) :: applicationsFrom f (f op left right) rest

/-- The applications that a fold makes, in their order. -/
def applications (f : Operator → α → α → α) (chain : Chain α) : List (Operator × α × α) :=
  applicationsFrom f chain.head chain.tail

/-- The applications of the plain evaluation: those inside the terms, then those between their
values. -/
def plainApplications (chain : Chain Float) : List (Operator × Float × Float) :=
  chain.terms.elements.flatMap (applications Operator.compute) ++
    (chain.terms.map (fold Operator.compute)).applications Operator.compute

/-- If the computation for every element has a value, they all together have the chain of these
values. -/
theorem mapM_of_forall {f : α → Except Failure β} {g : α → β} {chain : Chain α}
    (h : ∀ a ∈ chain.elements, f a = .ok (g a)) : chain.mapM f = .ok (chain.map g) := by
  have hTail : ∀ links : List (Operator × α), (∀ link ∈ links, f link.2 = .ok (g link.2)) →
      (links.mapM fun link => do return (link.1, ← f link.2)) =
        .ok (links.map fun link => (link.1, g link.2)) := by
    intro links hLinks
    induction links with
    | nil => rfl
    | cons link rest ih =>
        have hRest := ih fun later hLater => hLinks later (List.mem_cons_of_mem _ hLater)
        rw [List.mapM_cons, hLinks link List.mem_cons_self, hRest]
        rfl
  have hLinks : ∀ link ∈ chain.tail, f link.2 = .ok (g link.2) := fun link hLink =>
    h link.2 (List.mem_cons_of_mem _ (List.mem_map_of_mem hLink))
  rw [mapM, h chain.head List.mem_cons_self, hTail chain.tail hLinks]
  rfl

end Chain

namespace Calculator

variable (c : Calculator)

/-- Neither operand of the application is beyond the limit, each compared as on its side. -/
def WithinLimit (c : Calculator) (application : Operator × Float × Float) : Prop :=
  ¬ application.2.1 > c.limit ∧ ¬ application.2.2.abs > c.limit

instance (application : Operator × Float × Float) : Decidable (c.WithinLimit application) :=
  inferInstanceAs (Decidable (¬ application.2.1 > c.limit ∧ ¬ application.2.2.abs > c.limit))

/-- Within the limit an operator that divides by no zero has its plain result. -/
theorem apply_of_withinLimit {op : Operator} {left right : Float}
    (hDivisor : ¬ dividesByZero op right = true) (h : c.WithinLimit (op, left, right)) :
    c.apply op left right = .ok (op.compute left right) := by
  obtain ⟨hLeft, hRight⟩ := h
  have hLeftKept : c.saturateLeft op left = left := if_neg hLeft
  have hRightKept : c.saturateRight op right = right := if_neg hRight
  rw [apply, if_neg hDivisor, hLeftKept, hRightKept]

theorem foldM_apply_of_withinLimit {chain : Chain Float} (hDivisors : ¬ chain.HasZeroDivisor)
    (h : ∀ application ∈ chain.applications Operator.compute, c.WithinLimit application) :
    chain.foldM c.apply = .ok (chain.fold Operator.compute) := by
  obtain ⟨head, links⟩ := chain
  show links.foldlM (fun left link => c.apply link.1 left link.2) head =
    .ok (links.foldl (fun left link => link.1.compute left link.2) head)
  induction links generalizing head with
  | nil => rfl
  | cons link rest ih =>
      have hFirst : ¬ dividesByZero link.1 link.2 = true := fun hZero =>
        hDivisors ⟨link, List.mem_cons_self, hZero⟩
      have hRest := ih (link.1.compute head link.2)
        (fun ⟨later, hLater, hZero⟩ => hDivisors ⟨later, List.mem_cons_of_mem _ hLater, hZero⟩)
        (fun application hApplication => h application (List.mem_cons_of_mem _ hApplication))
      have hApply := c.apply_of_withinLimit hFirst (h _ List.mem_cons_self)
      rw [List.foldlM_cons, hApply, List.foldl_cons]
      exact hRest

/-- The values of the terms have no zero divisor: a joint between terms divides nothing. -/
theorem not_hasZeroDivisor_map_terms (chain : Chain Float) (value : Chain Float → Float) :
    ¬ (chain.terms.map value).HasZeroDivisor := by
  rintro ⟨link, hLink, hZero⟩
  obtain ⟨term, hTerm, rfl⟩ := List.mem_map.1 hLink
  exact not_dividesByZero_of_isAdditive (Chain.isAdditive_of_mem_terms hTerm) _ hZero

/-- Within the limit a chain without a zero divisor has its plain value. -/
theorem evaluate_tokens_of_withinLimit {chain : Chain Float} (hDivisors : ¬ chain.HasZeroDivisor)
    (h : ∀ application ∈ chain.plainApplications, c.WithinLimit application) :
    c.evaluate chain.tokens = .ok chain.plainValue := by
  rw [Chain.hasZeroDivisor_iff_terms, not_or] at hDivisors
  obtain ⟨hHead, hTail⟩ := hDivisors
  have hTerms : ∀ term ∈ chain.terms.elements,
      term.foldM c.apply = .ok (term.fold Operator.compute) := by
    intro term hTerm
    have hDivisor : ¬ term.HasZeroDivisor := by
      rcases List.mem_cons.1 hTerm with rfl | hLater
      · exact hHead
      · obtain ⟨link, hLink, rfl⟩ := List.mem_map.1 hLater
        exact fun hZero => hTail ⟨link, hLink, hZero⟩
    refine c.foldM_apply_of_withinLimit hDivisor fun application hApplication => h application ?_
    exact List.mem_append_left _ (List.mem_flatMap.2 ⟨term, hTerm, hApplication⟩)
  have hSum := c.foldM_apply_of_withinLimit
    (not_hasZeroDivisor_map_terms chain (Chain.fold Operator.compute))
    fun application hApplication => h application (List.mem_append_right _ hApplication)
  rw [c.evaluate_tokens, evaluateTerms, Chain.mapM_of_forall hTerms]
  exact hSum

/-- Nothing is beyond a limit that is positive infinity or not a number. -/
theorem withinLimit_of_unlimited (h : c.limit = Float.inf ∨ c.limit.isNaN = true)
    (application : Operator × Float × Float) : c.WithinLimit application := by
  rcases h with hInf | hNaN
  · rw [WithinLimit, hInf]
    exact ⟨not_inf_lt _, not_inf_lt _⟩
  · exact ⟨not_lt_of_isNaN hNaN _, not_lt_of_isNaN hNaN _⟩

/-- A well-formed list without a zero divisor has its plain value, if no application of the plain
evaluation has an operand beyond the limit.  There is none if the limit is positive infinity or not a
number. -/
theorem evaluate_of_withinLimit (c : Calculator) {tokens : List Token}
    (h : Token.WellFormed tokens) (hDivisors : ∀ position, ¬ Token.ZeroDivisorAt tokens position) :
    ∃ chain : Chain Float, tokens = chain.tokens ∧
      ((∀ application ∈ chain.plainApplications, c.WithinLimit application) →
        c.evaluate tokens = .ok chain.plainValue) ∧
      (c.limit = Float.inf ∨ c.limit.isNaN = true →
        (∀ application, c.WithinLimit application) ∧
          c.evaluate tokens = .ok chain.plainValue) := by
  obtain ⟨chain, rfl⟩ := Chain.wellFormed_iff_exists_tokens.1 h
  have hChain := Chain.not_hasZeroDivisor_of_tokens hDivisors
  refine ⟨chain, rfl, c.evaluate_tokens_of_withinLimit hChain, fun hUnlimited => ?_⟩
  have hWithin := c.withinLimit_of_unlimited hUnlimited
  exact ⟨hWithin, c.evaluate_tokens_of_withinLimit hChain fun application _ => hWithin application⟩

/-- A difference of a number and a term, with all operands within the standard limit. -/
theorem evaluate_of_withinLimit_difference :
    Token.WellFormed [.number 2, .operator .minus, .number 6, .operator .divide, .number 3,
        .operator .times, .number 4] ∧
      (∀ position, ¬ Token.ZeroDivisorAt [.number 2, .operator .minus, .number 6, .operator .divide,
        .number 3, .operator .times, .number 4] position) ∧
      standard.evaluate [.number 2, .operator .minus, .number 6, .operator .divide, .number 3,
        .operator .times, .number 4] = .ok (-6) ∧
      (Calculator.mk Float.inf).evaluate [.number 2, .operator .minus, .number 6, .operator .divide,
        .number 3, .operator .times, .number 4] = .ok (-6) := by
  have hWellFormed : Token.WellFormed [.number 2, .operator .minus, .number 6, .operator .divide,
      .number 3, .operator .times, .number 4] :=
    Chain.wellFormed_iff_exists_tokens.2 ⟨⟨2, [(.minus, 6), (.divide, 3), (.times, 4)]⟩, rfl⟩
  have hDivisors : ∀ position, ¬ Token.ZeroDivisorAt [.number 2, .operator .minus, .number 6,
      .operator .divide, .number 3, .operator .times, .number 4] position := by
    have hChain : ¬ (Chain.mk 2 [(.minus, 6), (.divide, 3), (.times, 4)]).HasZeroDivisor := by
      unfold Chain.HasZeroDivisor
      decide +kernel
    intro position hZero
    exact hChain ((Chain.exists_zeroDivisorAt_tokens_iff _).1 ⟨position, hZero⟩)
  have hValue : (Chain.mk 2 [(.minus, 6), (.divide, 3), (.times, 4)]).plainValue = -6 := by
    decide +kernel
  have hWithin : ∀ application ∈
      (Chain.mk 2 [(.minus, 6), (.divide, 3), (.times, 4)]).plainApplications,
      standard.WithinLimit application := by
    decide +kernel
  have hRead : ∀ chain : Chain Float, [Token.number 2, .operator .minus, .number 6,
      .operator .divide, .number 3, .operator .times, .number 4] = chain.tokens →
        Chain.mk 2 [(.minus, 6), (.divide, 3), (.times, 4)] = chain :=
    fun chain hTokens => Chain.tokens_injective hTokens
  refine ⟨hWellFormed, hDivisors, ?_, ?_⟩
  · obtain ⟨chain, hTokens, hPlain, -⟩ := evaluate_of_withinLimit standard hWellFormed hDivisors
    rw [← hRead chain hTokens, hValue] at hPlain
    exact hPlain hWithin
  · obtain ⟨chain, hTokens, -, hUnlimited⟩ :=
      evaluate_of_withinLimit (Calculator.mk Float.inf) hWellFormed hDivisors
    rw [← hRead chain hTokens, hValue] at hUnlimited
    exact (hUnlimited (.inl rfl)).2

end Calculator

end FlatArith
