import FlatArith.Calculation
import FlatArith.Proofs.Coherence
import FlatArith.Proofs.Positions
import FlatArith.Proofs.ValidTokens

/-!
# The failures of a calculation

A calculation fails as validation does, or by a division by zero, and the arguments alone decide which
(`calculate_eq_error_iff`): a division fails exactly if its right operand is zero, and that operand is an
argument.  So the limit of the calculator has no say in it, though it does in the value.
-/

namespace FlatArith

namespace Argument

/-- In an operator slot stands a division sign, and the number after it is zero. -/
def ZeroDivisorAmong (arguments : List Argument) : Prop :=
  ∃ position n, position % 2 = 1 ∧ arguments[position]? = some (.text "/") ∧
    arguments[position + 1]? = some (.number n) ∧ IsZero n

theorem toArgument_eq_text_divide_iff {token : Token} :
    token.toArgument = .text "/" ↔ token = .operator .divide := by
  cases token with
  | number n => simp [Token.toArgument]
  | operator op => cases op <;> simp [Token.toArgument, ofOperator, Operator.symbol]

theorem toArgument_eq_number_iff {token : Token} {n : Float} :
    token.toArgument = .number n ↔ token = .number n := by
  cases token with
  | number m => simp [Token.toArgument]
  | operator op => simp [Token.toArgument, ofOperator]

/-- The zero divisors among arguments are those among the tokens that they spell. -/
theorem zeroDivisorAmong_map_iff (tokens : List Token) :
    ZeroDivisorAmong (tokens.map Token.toArgument) ↔
      ∃ position, position % 2 = 1 ∧ Token.ZeroDivisorAt tokens position := by
  unfold ZeroDivisorAmong Token.ZeroDivisorAt
  simp only [List.getElem?_map, Option.map_eq_some_iff, toArgument_eq_text_divide_iff,
    toArgument_eq_number_iff, exists_eq_right]
  constructor
  · rintro ⟨position, n, hOdd, hDivide, hNumber, hZero⟩
    exact ⟨position, hOdd, hDivide, n, hNumber, hZero⟩
  · rintro ⟨position, hOdd, hDivide, n, hNumber, hZero⟩
    exact ⟨position, n, hOdd, hDivide, hNumber, hZero⟩

/-- The arguments that spell a chain have a zero divisor exactly if the chain has. -/
theorem zeroDivisorAmong_tokens_iff (chain : Chain Float) :
    ZeroDivisorAmong (chain.tokens.map Token.toArgument) ↔ chain.HasZeroDivisor := by
  rw [zeroDivisorAmong_map_iff, ← chain.exists_zeroDivisorAt_iff []]
  simp only [List.append_nil]
  refine exists_congr fun position => and_congr_right fun _ => ⟨fun hZero => ⟨?_, hZero⟩, And.right⟩
  obtain ⟨-, n, hNumber, -⟩ := hZero
  exact (List.getElem?_eq_some_iff.1 hNumber).1

end Argument

namespace Calculator

variable (c : Calculator)

/-- Arguments that are rejected have no value. -/
theorem calculate_of_error {arguments : List Argument} {failure : Failure}
    (h : validate arguments = .error failure) : c.calculate arguments = .error failure := by
  rw [calculate, h]
  rfl

/-- Arguments that are accepted have the value of their tokens. -/
theorem calculate_of_ok {arguments : List Argument} {tokens : List Token}
    (h : validate arguments = .ok tokens) : c.calculate arguments = c.evaluate tokens := by
  rw [calculate, h]
  rfl

/-- A well-formed list of tokens has a value or fails by a division. -/
theorem evaluate_or_of_validate {arguments : List Argument} {tokens : List Token}
    (h : validate arguments = .ok tokens) :
    (Argument.ZeroDivisorAmong arguments ∧ c.evaluate tokens = .error .divisionByZero) ∨
      (¬ Argument.ZeroDivisorAmong arguments ∧ ∃ value, c.evaluate tokens = .ok value) := by
  obtain ⟨rfl, hWellFormed⟩ := tokens_of_validate h
  obtain ⟨chain, rfl⟩ := Chain.wellFormed_iff_exists_tokens.1 hWellFormed
  rw [Argument.zeroDivisorAmong_tokens_iff]
  by_cases hZero : chain.HasZeroDivisor
  · exact .inl ⟨hZero, c.evaluate_of_hasZeroDivisor hZero⟩
  · exact .inr ⟨hZero, c.exists_evaluate hZero⟩

/-- Arguments that are accepted fail exactly if they have a zero divisor. -/
theorem calculate_eq_error_iff_of_ok {arguments : List Argument} {tokens : List Token}
    (h : validate arguments = .ok tokens) (failure : Failure) :
    c.calculate arguments = .error failure ↔
      Argument.ZeroDivisorAmong arguments ∧ failure = .divisionByZero := by
  rw [c.calculate_of_ok h]
  rcases c.evaluate_or_of_validate h with ⟨hZero, hOutcome⟩ | ⟨hZero, value, hOutcome⟩
  · simp [hOutcome, hZero, eq_comm]
  · simp [hOutcome, hZero]

/-- The failures of a calculation, said without its calculator. -/
theorem calculate_eq_error_iff (arguments : List Argument) (failure : Failure) :
    c.calculate arguments = .error failure ↔
      validate arguments = .error failure ∨
        (∃ tokens, validate arguments = .ok tokens) ∧
          Argument.ZeroDivisorAmong arguments ∧ failure = .divisionByZero := by
  cases hValid : validate arguments with
  | error rejected => simp [c.calculate_of_error hValid]
  | ok tokens => simp [c.calculate_eq_error_iff_of_ok hValid]

/-- The failure of a calculation is decided by its arguments: it is that of validation, or else a
division by zero exactly if there is a zero among the arguments behind a division sign.  Tokens that
passed validation are never found malformed, every divisor on the way is one of the arguments, and
any other calculator fails alike. -/
theorem calculate_failure (arguments : List Argument) :
    (∀ failure, validate arguments = .error failure → c.calculate arguments = .error failure) ∧
      (∀ tokens, validate arguments = .ok tokens →
        ((∃ failure, c.calculate arguments = .error failure) ↔
            Argument.ZeroDivisorAmong arguments) ∧
          (∀ failure, c.calculate arguments = .error failure → failure = .divisionByZero) ∧
          (∀ length, c.evaluate tokens ≠ .error (.malformed length)) ∧
          ∀ m, c.Reaches tokens.length (.start tokens) m →
            (∀ reduction next, c.move tokens.length m = .reduce reduction next →
              reduction.operator = .divide →
                .text "/" :: .number reduction.right :: m.pending.map Token.toArgument <:+
                  arguments) ∧
              (c.move tokens.length m = .halt (.error .divisionByZero) →
                ∃ n, m.operands.head? = some n ∧ IsZero n ∧
                  .text "/" :: .number n :: m.pending.map Token.toArgument <:+ arguments)) ∧
      ∀ (other : Calculator) failure,
        c.calculate arguments = .error failure ↔ other.calculate arguments = .error failure := by
  refine ⟨fun failure => c.calculate_of_error, fun tokens hValid => ⟨?_, ?_, ?_, ?_⟩,
    fun other failure => ?_⟩
  · constructor
    · rintro ⟨failure, hFailure⟩
      exact ((c.calculate_eq_error_iff_of_ok hValid failure).1 hFailure).1
    · intro hZero
      exact ⟨_, (c.calculate_eq_error_iff_of_ok hValid .divisionByZero).2 ⟨hZero, rfl⟩⟩
  · intro failure hFailure
    exact ((c.calculate_eq_error_iff_of_ok hValid failure).1 hFailure).2
  · intro length hMalformed
    rw [← c.calculate_of_ok hValid, c.calculate_eq_error_iff_of_ok hValid] at hMalformed
    cases hMalformed.2
  · obtain ⟨rfl, hWellFormed⟩ := tokens_of_validate hValid
    refine fun m hReaches => ⟨fun reduction next hMove hDivide => ?_, fun hMove => ?_⟩
    · exact (divisor_of_reduce hWellFormed hReaches hMove hDivide).map Token.toArgument
    · obtain ⟨n, hHead, hZero, hSuffix⟩ := divisor_of_halt hWellFormed hReaches hMove
      exact ⟨n, hHead, hZero, hSuffix.map Token.toArgument⟩
  · rw [c.calculate_eq_error_iff, other.calculate_eq_error_iff]

/-- Six divided by zero, and added to one afterwards. -/
theorem calculate_failure_divided :
    standard.calculate [.number 6, .text "/", .number 0, .text "+", .number 1] =
      .error .divisionByZero := by
  have hValid : validate [.number 6, .text "/", .number 0, .text "+", .number 1] =
      .ok [.number 6, .operator .divide, .number 0, .operator .plus, .number 1] :=
    rfl
  obtain ⟨hFails, hCause, -⟩ := (calculate_failure standard _).2.1 _ hValid
  obtain ⟨failure, hFailure⟩ := hFails.2 ⟨1, 0, rfl, rfl, rfl, .inl rfl⟩
  rw [hFailure, hCause failure hFailure]

end Calculator

end FlatArith
