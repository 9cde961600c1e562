import FlatArith.Proofs.CheckOrder

/-!
# The checks of the two slots on their own

A caller can ask beforehand whether all operands and all operators of a list are valid, and how tightly
any text binds.  This module says that these questions are decided as validation decides them.

The checks go through the elements of one slot, which are numbered anew, and validation through the
whole list.  The elements of a slot are said by their positions: the operands stand at `2 * k` and the
operators at `2 * k + 1`.  `all_slot_iff_not_hasOffender` leads from a list of them to the whole list, for
both slots: a check passes exactly when no position with the parity of its slot holds an offender.
-/

namespace FlatArith

/-- A text has a rank above zero exactly when it spells an operator. -/
theorem rankOf_ne_zero_iff {text : String} :
    rankOf text ≠ 0 ↔ (Operator.ofSymbol? text).isSome = true := by
  unfold rankOf
  cases Operator.ofSymbol? text with
  | none => simp
  | some op => simpa using Nat.ne_of_gt op.rank_pos

theorem Argument.isSome_operator?_iff {argument : Argument} :
    argument.operator?.isSome = true ↔ ∃ s, argument = .text s ∧ rankOf s ≠ 0 := by
  cases argument with
  | number n => simp
  | text s => simp [operator?, rankOf_ne_zero_iff]

section Slots

variable {arguments operands operators : List Argument}

/-- All elements of a slot pass a check exactly when no position of the slot holds an offender. -/
theorem all_slot_iff_not_hasOffender {check : Argument → Bool} {unfit : Argument → Prop}
    (hUnfit : ∀ argument, check argument = false ↔ unfit argument) {slot : List Argument}
    {parity : Nat} (hParity : parity < 2) (hSlot : ∀ k, slot[k]? = arguments[2 * k + parity]?) :
    slot.all check = true ↔ ¬ HasOffender unfit parity arguments := by
  rw [List.all_eq_true]
  constructor
  · rintro hAll ⟨position, argument, hOffender⟩
    have hOffenderParity := hOffender.parity_eq
    obtain ⟨k, rfl⟩ : ∃ k, position = 2 * k + parity := ⟨position / 2, by omega⟩
    have hMember : argument ∈ slot := List.mem_of_getElem? ((hSlot k).trans hOffender.stands)
    have hFails := (hUnfit argument).2 hOffender.offends
    rw [hAll argument hMember] at hFails
    cases hFails
  · intro hNone argument hMember
    obtain ⟨k, hk⟩ := List.mem_iff_getElem?.1 hMember
    by_contra hFails
    have hOffends := (hUnfit argument).1 (Bool.eq_false_iff.2 hFails)
    exact hNone ⟨2 * k + parity, argument, by omega, (hSlot k).symm.trans hk, hOffends⟩

/-- The operands of a list are valid exactly when none of its operand slots holds an offender. -/
theorem operandsAreValid_iff (hOperands : ∀ k, operands[k]? = arguments[2 * k]?) :
    operandsAreValid operands = true ↔ ¬ HasOffender Argument.NoOperand 0 arguments := by
  refine all_slot_iff_not_hasOffender (fun argument => ?_) (by decide) hOperands
  rw [Option.isSome_eq_false_iff, Option.isNone_iff_eq_none, Argument.number?_eq_none_iff]

/-- The operators of a list are valid exactly when none of its operator slots holds an offender. -/
theorem operatorsAreValid_iff (hOperators : ∀ k, operators[k]? = arguments[2 * k + 1]?) :
    operatorsAreValid operators = true ↔ ¬ HasOffender Argument.NoOperator 1 arguments := by
  refine all_slot_iff_not_hasOffender (fun argument => ?_) (by decide) hOperators
  rw [Option.isSome_eq_false_iff, Option.isNone_iff_eq_none, Argument.operator?_eq_none_iff]

/-- Of a list of the right length an operand is reported exactly when one offends. -/
theorem exists_notNumber_iff
    (hLength : ¬ (arguments.length < minArguments ∨ arguments.length % 2 = 0)) :
    (∃ position found, validate arguments = .error (.notNumber position found)) ↔
      HasOffender Argument.NoOperand 0 arguments := by
  simp only [validate_eq_error_iff, hLength, false_and, false_or, not_false_eq_true, true_and]
  constructor
  · rintro ⟨position, found, ⟨place, argument, hFirst, -⟩ | ⟨-, place, argument, -, hReport⟩⟩
    · exact ⟨place, argument, hFirst.toOffenderAt⟩
    · cases hReport
  · intro hOffender
    obtain ⟨position, argument, hFirst⟩ := hasOffender_iff_exists_first.1 hOffender
    exact ⟨position, argument.described, .inl ⟨position, argument, hFirst, rfl⟩⟩

/-- An operator is reported exactly when one offends and no operand does. -/
theorem exists_notOperator_iff
    (hLength : ¬ (arguments.length < minArguments ∨ arguments.length % 2 = 0)) :
    (∃ position found, validate arguments = .error (.notOperator position found)) ↔
      ¬ HasOffender Argument.NoOperand 0 arguments ∧
        HasOffender Argument.NoOperator 1 arguments := by
  simp only [validate_eq_error_iff, hLength, false_and, false_or, not_false_eq_true, true_and]
  constructor
  · rintro ⟨position, found, ⟨place, argument, -, hReport⟩ |
      ⟨hOperands, place, argument, hFirst, -⟩⟩
    · cases hReport
    · exact ⟨hOperands, place, argument, hFirst.toOffenderAt⟩
  · rintro ⟨hOperands, hOffender⟩
    obtain ⟨position, argument, hFirst⟩ := hasOffender_iff_exists_first.1 hOffender
    exact ⟨position, argument.described, .inr ⟨hOperands, position, argument, hFirst, rfl⟩⟩

/-- A text in a valid list becomes the operator that it shows, in the same place. -/
theorem exists_operator_of_validate {tokens : List Token} (h : validate arguments = .ok tokens)
    {position : Nat} {s : String} (hText : arguments[position]? = some (.text s)) :
    ∃ op, tokens[position]? = some (.operator op) ∧ op.rank = rankOf s ∧
      (Token.operator op).shown = s := by
  rw [(tokens_of_validate h).1, List.getElem?_map, Option.map_eq_some_iff] at hText
  obtain ⟨token, hToken, hArgument⟩ := hText
  cases token with
  | number n => cases hArgument
  | operator op =>
      obtain rfl : op.symbol = s := Argument.text.inj hArgument
      exact ⟨op, hToken, (rankOf_symbol op).symm, rfl⟩

end Slots

/-- On a list of the right length the checks of its operands and of its operators decide what validation
answers: a bad operand is reported exactly when the operands are not valid, a bad operator when the
operands are valid and the operators are not, and the list is accepted when both are.  Valid operators
are the texts with a rank above zero, and the token that such a text becomes has this rank and shows
this text. -/
theorem validate_iff_areValid (arguments operands operators : List Argument)
    (hOdd : arguments.length % 2 = 1) (hLength : 3 ≤ arguments.length)
    (hOperands : ∀ k, operands[k]? = arguments[2 * k]?)
    (hOperators : ∀ k, operators[k]? = arguments[2 * k + 1]?) :
    ((∃ position found, validate arguments = .error (.notNumber position found)) ↔
        operandsAreValid operands = false) ∧
      ((∃ position found, validate arguments = .error (.notOperator position found)) ↔
        operandsAreValid operands = true ∧ operatorsAreValid operators = false) ∧
      ((∃ tokens, validate arguments = .ok tokens) ↔
        operandsAreValid operands = true ∧ operatorsAreValid operators = true) ∧
      (operatorsAreValid operators = true ↔
        ∀ argument ∈ operators, ∃ s, argument = .text s ∧ rankOf s ≠ 0) ∧
      ∀ tokens, validate arguments = .ok tokens → ∀ k s, operators[k]? = some (.text s) →
        ∃ op, tokens[2 * k + 1]? = some (.operator op) ∧ op.rank = rankOf s ∧
          (Token.operator op).shown = s := by
  have hRight : ¬ (arguments.length < minArguments ∨ arguments.length % 2 = 0) := by
    unfold minArguments
    omega
  have hFirst := operandsAreValid_iff hOperands
  have hSecond := operatorsAreValid_iff hOperators
  refine ⟨?_, ?_, ?_, ?_, fun tokens hValid k s hText => ?_⟩
  · rw [exists_notNumber_iff hRight, ← Bool.not_eq_true, hFirst, not_not]
  · rw [exists_notOperator_iff hRight, ← Bool.not_eq_true (operatorsAreValid _), hFirst, hSecond,
      not_not]
  · rw [exists_validate_eq_ok_iff, and_iff_right hRight, hFirst, hSecond]
  · simp only [operatorsAreValid, List.all_eq_true, Argument.isSome_operator?_iff]
  · exact exists_operator_of_validate hValid ((hOperators k).symm.trans hText)

/-- A difference with a product: both checks pass, and the second operator becomes a token of its rank.
-/
theorem validate_iff_areValid_product :
    operandsAreValid [.number 2, .number 3, .number 4] = true ∧
      operatorsAreValid [.text "-", .text "*"] = true ∧
      ∃ tokens op,
        validate [.number 2, .text "-", .number 3, .text "*", .number 4] = .ok tokens ∧
          tokens[3]? = some (.operator op) ∧ op.rank = rankOf "*" ∧
          (Token.operator op).shown = "*" := by
  have hOperands : operandsAreValid [.number 2, .number 3, .number 4] = true := by decide +kernel
  have hOperators : operatorsAreValid [.text "-", .text "*"] = true := by decide +kernel
  obtain ⟨-, -, hAccepted, -, hTokens⟩ := validate_iff_areValid
    [.number 2, .text "-", .number 3, .text "*", .number 4] [.number 2, .number 3, .number 4]
    [.text "-", .text "*"] (by decide) (by decide)
    (getElem?_everyOther [Argument.number 2, .text "-", .number 3, .text "*", .number 4])
    (getElem?_inOperatorSlots [Argument.number 2, .text "-", .number 3, .text "*", .number 4])
  obtain ⟨tokens, hValid⟩ := hAccepted.2 ⟨hOperands, hOperators⟩
  obtain ⟨op, hToken, hRank, hShown⟩ := hTokens tokens hValid 1 "*" rfl
  exact ⟨hOperands, hOperators, tokens, op, hValid, hToken, hRank, hShown⟩

end FlatArith
