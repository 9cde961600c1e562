import FlatArith.Proofs.Positions
import FlatArith.Proofs.ValidTokens

/-!
# Validation is the inverse of spelling

`Token.IsExpression` describes the lists of tokens that arguments can spell: well formed, with an
operator in them, and without floats that are not numbers.  `validate` gives exactly these, and each
only for the arguments that its tokens are made from (`validate_eq_ok_iff`).  So validation and the
conversion of tokens into arguments, one by one, are inverse to each other (`validate_bijection`).

That validation loses and moves nothing is `tokens_of_validate`.  For the other direction a chain of
numbers is taken apart into its operand slots and its operator slots, as validation does it.
-/

namespace FlatArith

/-- The tokens are an expression with an operator, and all their floats are numbers. -/
structure Token.IsExpression (tokens : List Token) : Prop where
  wellFormed : Token.WellFormed tokens
  minArguments_le : minArguments ≤ tokens.length
  isNumber : ∀ n, .number n ∈ tokens → n.isNaN = false

namespace Chain

theorem everyOther_linkTokens (links : List (Operator × Float)) :
    everyOther (linkTokens links) = links.map (fun link => .operator link.1) ∧
      everyOther (linkTokens links).tail = links.map (fun link => .number link.2) := by
  induction links with
  | nil => exact ⟨rfl, rfl⟩
  | cons link rest ih =>
      obtain ⟨hOperators, hNumbers⟩ := ih
      constructor
      · simp [linkTokens, everyOther, hOperators]
      · simp [linkTokens, everyOther_cons, hNumbers]

/-- The operand slots of a chain hold its numbers. -/
theorem inOperandSlots_tokens (chain : Chain Float) :
    inOperandSlots chain.tokens = chain.elements.map .number := by
  have hNumbers := (everyOther_linkTokens chain.tail).2
  rw [inOperandSlots, tokens, everyOther_cons, hNumbers]
  simp [elements]

/-- The operator slots of a chain hold its operators. -/
theorem inOperatorSlots_tokens (chain : Chain Float) :
    inOperatorSlots chain.tokens = chain.operators.map .operator := by
  have hOperators := (everyOther_linkTokens chain.tail).1
  rw [inOperatorSlots, tokens, List.tail_cons, hOperators]
  simp [operators]

theorem interleave_elements (chain : Chain Float) :
    interleave chain.elements chain.operators = chain.tokens := by
  obtain ⟨head, links⟩ := chain
  induction links generalizing head with
  | nil => rfl
  | cons link rest ih =>
      have hRest := ih link.2
      simp only [elements, operators, List.map_cons, tokens, linkTokens] at hRest ⊢
      rw [interleave, hRest]

theorem number_mem_tokens {chain : Chain Float} {n : Float} (h : n ∈ chain.elements) :
    .number n ∈ chain.tokens := by
  have hSlot : Token.number n ∈ inOperandSlots chain.tokens := by
    rw [chain.inOperandSlots_tokens]
    exact List.mem_map_of_mem h
  exact mem_of_mem_everyOther hSlot

end Chain

theorem mem_of_number_mem_interleave {n : Float} {numbers : List Float} {operators : List Operator}
    (h : .number n ∈ interleave numbers operators) : n ∈ numbers := by
  fun_induction interleave numbers operators with
  | case1 operators => cases h
  | case2 m rest ih =>
      rcases List.mem_cons.1 h with hFirst | hRest
      · cases hFirst
        exact List.mem_cons_self
      · exact List.mem_cons_of_mem _ (ih hRest)
  | case3 m rest op later ih =>
      rcases List.mem_cons.1 h with hFirst | hBehind
      · cases hFirst
        exact List.mem_cons_self
      · rcases List.mem_cons.1 hBehind with hOperator | hRest
        · cases hOperator
        · exact List.mem_cons_of_mem _ (ih hRest)

/-- What validation accepts is an expression. -/
theorem isExpression_of_validate {arguments : List Argument} {tokens : List Token}
    (h : validate arguments = .ok tokens) : Token.IsExpression tokens := by
  obtain ⟨hArguments, hWellFormed⟩ := tokens_of_validate h
  obtain ⟨hLength, operands, operators, ⟨-, hNumbers⟩, -, rfl⟩ := validate_eq_ok_iff_slots.1 h
  refine ⟨hWellFormed, ?_, fun n hMember => ?_⟩
  · rw [hArguments, List.length_map] at hLength
    omega
  · exact hNumbers n (mem_of_number_mem_interleave hMember)

/-- The arguments that an expression is made into are accepted, and give the expression back. -/
theorem validate_map_toArgument {tokens : List Token} (h : Token.IsExpression tokens) :
    validate (tokens.map Token.toArgument) = .ok tokens := by
  obtain ⟨hWellFormed, hMinimum, hNumbers⟩ := h
  obtain ⟨chain, rfl⟩ := Chain.wellFormed_iff_exists_tokens.1 hWellFormed
  have hLength := chain.length_tokens
  have hOperands :
      inOperandSlots (chain.tokens.map Token.toArgument) = chain.elements.map .number := by
    rw [← map_inOperandSlots, chain.inOperandSlots_tokens, List.map_map]
    rfl
  have hOperators :
      inOperatorSlots (chain.tokens.map Token.toArgument) = chain.operators.map .ofOperator := by
    rw [← map_inOperatorSlots, chain.inOperatorSlots_tokens, List.map_map]
    rfl
  have hUsable : ∀ n ∈ chain.elements, n.isNaN = false := fun n hElement =>
    hNumbers n (Chain.number_mem_tokens hElement)
  refine validate_eq_ok_iff_slots.2 ⟨?_, chain.elements, chain.operators, ⟨hOperands, hUsable⟩,
    hOperators, chain.interleave_elements⟩
  rw [List.length_map]
  omega

/-- Validation gives the tokens of an expression exactly for the arguments that they are made into.
-/
theorem validate_eq_ok_iff {arguments : List Argument} {tokens : List Token} :
    validate arguments = .ok tokens ↔
      Token.IsExpression tokens ∧ tokens.map Token.toArgument = arguments := by
  constructor
  · intro h
    exact ⟨isExpression_of_validate h, (tokens_of_validate h).1.symm⟩
  · rintro ⟨hExpression, rfl⟩
    exact validate_map_toArgument hExpression

/-- Validation is a bijection from the lists of arguments that it accepts to the expressions, and
the conversion of every token into its argument is its inverse. -/
theorem validate_bijection :
    (∀ arguments tokens, validate arguments = .ok tokens →
        Token.IsExpression tokens ∧ tokens.map Token.toArgument = arguments) ∧
      (∀ tokens, Token.IsExpression tokens →
        validate (tokens.map Token.toArgument) = .ok tokens) ∧
      Set.BijOn (List.map Token.toArgument) {tokens | Token.IsExpression tokens}
        {arguments | ∃ tokens, validate arguments = .ok tokens} := by
  refine ⟨fun arguments tokens => validate_eq_ok_iff.1, fun tokens => validate_map_toArgument,
    fun tokens hTokens => ⟨tokens, validate_map_toArgument hTokens⟩, ?_, ?_⟩
  · intro first hFirst second hSecond hArguments
    have hSame := validate_map_toArgument hFirst
    rw [hArguments, validate_map_toArgument hSecond] at hSame
    exact (Except.ok.inj hSame).symm
  · rintro arguments ⟨tokens, hValid⟩
    obtain ⟨hExpression, hArguments⟩ := validate_eq_ok_iff.1 hValid
    exact ⟨tokens, hExpression, hArguments⟩

/-- A difference with a negative zero goes to its tokens and comes back. -/
theorem validate_bijection_negative_zero :
    Token.IsExpression [.number 2, .operator .minus, .number (-0)] ∧
      validate [.number 2, .text "-", .number (-0)] =
        .ok [.number 2, .operator .minus, .number (-0)] ∧
      [Token.number 2, .operator .minus, .number (-0)].map Token.toArgument =
        [.number 2, .text "-", .number (-0)] := by
  have hExpression : Token.IsExpression [.number 2, .operator .minus, .number (-0)] := by
    refine ⟨Chain.wellFormed_iff_exists_tokens.2 ⟨⟨2, [(.minus, -0)]⟩, rfl⟩, by decide, ?_⟩
    intro n hMember
    simp only [List.mem_cons, Token.number.injEq, reduceCtorEq, List.not_mem_nil, or_false,
      false_or] at hMember
    rcases hMember with rfl | rfl <;> decide +kernel
  obtain ⟨hBack, hForth, -⟩ := validate_bijection
  have hValid := hForth _ hExpression
  exact ⟨hExpression, hValid, (hBack _ _ hValid).2⟩

end FlatArith
