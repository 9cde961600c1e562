import FlatArith.Proofs.ValidTokens
import Mathlib.Data.Nat.Find

/-!
# The order of the checks

Validation checks the length first, then the operand slots from the left, then the operator slots from the
left.  `OffenderAt` says what offends at a position and `FirstOffenderAt` which offender is reported.  The
two passes are one argument: reading a list of entries stops at the first that cannot be read
(`mapM_eq_error_iff`), and the entries of a slot stand at every second position (`mapM_slot_eq_error_iff`).

`validate_eq_error_iff` gives the one failure of every list that is rejected, and
`exists_validate_eq_ok_iff` the lists that are not.
-/

namespace FlatArith

namespace Argument

/-- The argument cannot serve as an operand. -/
inductive NoOperand : Argument → Prop
  | text (s : String) : NoOperand (.text s)
  | notANumber {n : Float} (isNaN : n.isNaN = true) : NoOperand (.number n)

/-- The argument cannot serve as an operator. -/
def NoOperator (argument : Argument) : Prop :=
  argument ∉ [text "+", text "-", text "*", text "/"]

theorem number?_eq_none_iff {argument : Argument} : argument.number? = none ↔ NoOperand argument := by
  cases argument with
  | text s => exact iff_of_true rfl (.text s)
  | number n =>
      by_cases h : n.isNaN = true
      · exact iff_of_true (if_pos h) (.notANumber h)
      · rw [number?_number (Bool.eq_false_iff.2 h)]
        refine iff_of_false (Option.some_ne_none n) ?_
        rintro (_ | hNaN)
        exact h hNaN

theorem operator?_eq_none_iff {argument : Argument} :
    argument.operator? = none ↔ NoOperator argument := by
  have hSymbols : [text "+", text "-", text "*", text "/"] = Operator.all.map ofOperator := rfl
  rw [NoOperator, hSymbols, Option.eq_none_iff_forall_ne_some]
  simp only [ne_eq, operator?_eq_some_iff, List.mem_map, Operator.mem_all, true_and, not_exists]
  exact forall_congr' fun op => not_congr eq_comm

end Argument

/-- At the position, which has the parity of its slot, stands an argument that offends. -/
structure OffenderAt (unfit : Argument → Prop) (parity : Nat) (arguments : List Argument)
    (position : Nat) (argument : Argument) : Prop where
  parity_eq : position % 2 = parity
  stands : arguments[position]? = some argument
  offends : unfit argument

/-- The first offender of its slot stands at the position. -/
structure FirstOffenderAt (unfit : Argument → Prop) (parity : Nat) (arguments : List Argument)
    (position : Nat) (argument : Argument) : Prop
    extends OffenderAt unfit parity arguments position argument where
  first : ∀ earlier < position, ∀ other, ¬ OffenderAt unfit parity arguments earlier other

/-- Some argument in a slot of the parity offends. -/
def HasOffender (unfit : Argument → Prop) (parity : Nat) (arguments : List Argument) : Prop :=
  ∃ position argument, OffenderAt unfit parity arguments position argument

theorem hasOffender_iff_exists_first {unfit : Argument → Prop} {parity : Nat}
    {arguments : List Argument} :
    HasOffender unfit parity arguments ↔
      ∃ position argument, FirstOffenderAt unfit parity arguments position argument := by
  constructor
  · intro h
    classical
    obtain ⟨argument, hOffender⟩ := Nat.find_spec h
    exact ⟨Nat.find h, argument, hOffender, fun earlier hEarlier other hOther =>
      Nat.find_min h hEarlier ⟨other, hOther⟩⟩
  · rintro ⟨position, argument, hFirst⟩
    exact ⟨position, argument, hFirst.toOffenderAt⟩

section Reading

variable {α β : Type}

/-- The first element at which a list stops is its head, or that of its tail if the head passes. -/
theorem exists_first_cons {stops passes : α → Prop} {first : α} {rest : List α} :
    (∃ (k : Nat) (a : α), (first :: rest)[k]? = some a ∧ stops a ∧
        ∀ j < k, ∀ b, (first :: rest)[j]? = some b → passes b) ↔
      stops first ∨ passes first ∧ ∃ (k : Nat) (a : α), rest[k]? = some a ∧ stops a ∧
        ∀ j < k, ∀ b, rest[j]? = some b → passes b := by
  constructor
  · rintro ⟨k, a, hStands, hStops, hBefore⟩
    cases k with
    | zero =>
        cases hStands
        exact .inl hStops
    | succ k =>
        exact .inr ⟨hBefore 0 (Nat.succ_pos k) first rfl, k, a, hStands, hStops,
          fun j hj b hb => hBefore (j + 1) (Nat.succ_lt_succ hj) b hb⟩
  · rintro (hStops | ⟨hPasses, k, a, hStands, hStops, hBefore⟩)
    · exact ⟨0, first, rfl, hStops, fun j hj => absurd hj (Nat.not_lt_zero j)⟩
    · refine ⟨k + 1, a, hStands, hStops, fun j hj b hb => ?_⟩
      cases j with
      | zero =>
          cases hb
          exact hPasses
      | succ j => exact hBefore j (Nat.lt_of_succ_lt_succ hj) b hb

/-- Reading a list fails as its first element fails that cannot be read. -/
theorem mapM_eq_error_iff {read : α → Except Failure β} {l : List α} {failure : Failure} :
    l.mapM read = .error failure ↔
      ∃ (k : Nat) (a : α), l[k]? = some a ∧ read a = .error failure ∧
        ∀ j < k, ∀ b, l[j]? = some b → ∃ value, read b = .ok value := by
  induction l with
  | nil => simp [List.mapM_nil, pure, Except.pure]
  | cons first rest ih =>
      rw [List.mapM_cons, exists_first_cons, ← ih]
      cases read first with
      | error early => simp [bind, Except.bind]
      | ok value =>
          cases rest.mapM read with
          | error late => simp [bind, Except.bind]
          | ok values => simp [bind, Except.bind, pure, Except.pure]

theorem getElem?_everyOther (l : List α) (k : Nat) : (everyOther l)[k]? = l[2 * k]? := by
  induction k generalizing l with
  | zero =>
      cases l with
      | nil => rfl
      | cons a rest => rw [everyOther_cons]; rfl
  | succ k ih =>
      cases l with
      | nil => rfl
      | cons a rest =>
          rw [everyOther_cons, List.getElem?_cons_succ, ih, List.getElem?_tail]
          rfl

theorem getElem?_inOperatorSlots (l : List α) (k : Nat) : (inOperatorSlots l)[k]? = l[2 * k + 1]? := by
  rw [inOperatorSlots, getElem?_everyOther, List.getElem?_tail]

/-- Reading the entries of a slot, one by one and each with its position, fails at the first offender of
the slot. -/
theorem mapM_slot_eq_error_iff {read : Argument × Nat → Except Failure β}
    {unfit : Argument → Prop} {report : Nat → Argument → Failure}
    (hRead : ∀ entry failure,
      read entry = .error failure ↔ unfit entry.1 ∧ failure = report entry.2 entry.1)
    {arguments : List Argument} {entries : List (Argument × Nat)} {parity : Nat} (hParity : parity < 2)
    (hEntries : ∀ k, entries[k]? = arguments[2 * k + parity]?.map (·, 2 * k + parity))
    (failure : Failure) :
    entries.mapM read = .error failure ↔
      ∃ position argument, FirstOffenderAt unfit parity arguments position argument ∧
        failure = report position argument := by
  rw [mapM_eq_error_iff]
  constructor
  · rintro ⟨k, entry, hEntry, hFails, hBefore⟩
    rw [hEntries, Option.map_eq_some_iff] at hEntry
    obtain ⟨argument, hStands, rfl⟩ := hEntry
    obtain ⟨hOffends, hFailure⟩ := (hRead _ _).1 hFails
    refine ⟨2 * k + parity, argument, ⟨⟨by omega, hStands, hOffends⟩, ?_⟩, hFailure⟩
    intro earlier hEarlier other hOther
    -- An earlier position of the slot is that of an entry that was read.
    have hOtherParity := hOther.parity_eq
    obtain ⟨j, rfl⟩ : ∃ j, earlier = 2 * j + parity := ⟨earlier / 2, by omega⟩
    obtain ⟨value, hValue⟩ := hBefore j (by omega) (other, 2 * j + parity) (by
      rw [hEntries, hOther.stands]
      rfl)
    rw [(hRead _ (report (2 * j + parity) other)).2 ⟨hOther.offends, rfl⟩] at hValue
    cases hValue
  · rintro ⟨position, argument, hFirst, rfl⟩
    have hFirstParity := hFirst.parity_eq
    obtain ⟨k, rfl⟩ : ∃ k, position = 2 * k + parity := ⟨position / 2, by omega⟩
    refine ⟨k, (argument, 2 * k + parity), ?_, (hRead _ _).2 ⟨hFirst.offends, rfl⟩, ?_⟩
    · rw [hEntries, hFirst.stands]
      rfl
    · intro j hj entry hEntry
      rw [hEntries, Option.map_eq_some_iff] at hEntry
      obtain ⟨other, hStands, rfl⟩ := hEntry
      cases hOther : read (other, 2 * j + parity) with
      | ok value => exact ⟨value, rfl⟩
      | error early =>
          have hOffends := ((hRead _ _).1 hOther).1
          exact absurd ⟨by omega, hStands, hOffends⟩ (hFirst.first (2 * j + parity) (by omega) other)

end Reading

theorem readOperand_eq_error_iff (entry : Argument × Nat) (failure : Failure) :
    readOperand entry = .error failure ↔
      entry.1.NoOperand ∧ failure = .badOperand entry.2 entry.1 := by
  rw [← Argument.number?_eq_none_iff, readOperand]
  cases entry.1.number? with
  | none => simp [eq_comm]
  | some n => simp

theorem readOperator_eq_error_iff (entry : Argument × Nat) (failure : Failure) :
    readOperator entry = .error failure ↔
      entry.1.NoOperator ∧ failure = .badOperator entry.2 entry.1 := by
  rw [← Argument.operator?_eq_none_iff, readOperator]
  cases entry.1.operator? with
  | none => simp [eq_comm]
  | some op => simp

section Passes

variable {arguments : List Argument} {failure : Failure}

/-- The pass over the operand slots fails at the first argument that is no operand. -/
theorem operands_eq_error_iff :
    (inOperandSlots arguments.zipIdx).mapM readOperand = .error failure ↔
      ∃ position argument, FirstOffenderAt Argument.NoOperand 0 arguments position argument ∧
        failure = .badOperand position argument := by
  refine mapM_slot_eq_error_iff readOperand_eq_error_iff (by decide) (fun k => ?_) failure
  rw [inOperandSlots, getElem?_everyOther, List.getElem?_zipIdx, Nat.zero_add]
  rfl

/-- The pass over the operator slots fails at the first argument that is no operator. -/
theorem operators_eq_error_iff :
    (inOperatorSlots arguments.zipIdx).mapM readOperator = .error failure ↔
      ∃ position argument, FirstOffenderAt Argument.NoOperator 1 arguments position argument ∧
        failure = .badOperator position argument := by
  refine mapM_slot_eq_error_iff readOperator_eq_error_iff (by decide) (fun k => ?_) failure
  rw [getElem?_inOperatorSlots, List.getElem?_zipIdx, Nat.zero_add]

/-- What does not fail succeeds. -/
theorem exists_ok_iff_ne_error {α : Type} {result : Except Failure α} :
    (∃ value, result = .ok value) ↔ ∀ failure, result ≠ .error failure := by
  cases result with
  | ok value => exact iff_of_true ⟨value, rfl⟩ fun _ => nofun
  | error failure => exact iff_of_false nofun fun h => h failure rfl

/-- A pass succeeds exactly on arguments without offenders. -/
theorem exists_ok_iff_not_hasOffender {β : Type} {pass : Except Failure β}
    {unfit : Argument → Prop} {parity : Nat} {report : Nat → Argument → Failure}
    (h : ∀ {failure}, pass = .error failure ↔
      ∃ position argument, FirstOffenderAt unfit parity arguments position argument ∧
        failure = report position argument) :
    (∃ values, pass = .ok values) ↔ ¬ HasOffender unfit parity arguments := by
  rw [exists_ok_iff_ne_error, hasOffender_iff_exists_first]
  constructor
  · rintro hPass ⟨position, argument, hFirst⟩
    exact hPass _ (h.2 ⟨position, argument, hFirst, rfl⟩)
  · intro hNone failure hFails
    obtain ⟨position, argument, hFirst, -⟩ := h.1 hFails
    exact hNone ⟨position, argument, hFirst⟩

/-- The failure of validation: the length, or else the first offender in an operand slot, or else the first
in an operator slot. -/
theorem validate_eq_error_iff :
    validate arguments = .error failure ↔
      ((arguments.length < minArguments ∨ arguments.length % 2 = 0) ∧
          failure = .malformed arguments.length) ∨
        ¬ (arguments.length < minArguments ∨ arguments.length % 2 = 0) ∧
          ((∃ position argument, FirstOffenderAt Argument.NoOperand 0 arguments position argument ∧
              failure = .badOperand position argument) ∨
            ¬ HasOffender Argument.NoOperand 0 arguments ∧
              ∃ position argument,
                FirstOffenderAt Argument.NoOperator 1 arguments position argument ∧
                  failure = .badOperator position argument) := by
  rw [← operands_eq_error_iff, ← operators_eq_error_iff,
    ← exists_ok_iff_not_hasOffender (@operands_eq_error_iff arguments), validate]
  by_cases hLength : arguments.length < minArguments ∨ arguments.length % 2 = 0
  · rw [if_pos hLength, or_iff_left fun h => h.1 hLength, and_iff_right hLength, Except.error.injEq,
      eq_comm]
  · rw [if_neg hLength]
    cases (inOperandSlots arguments.zipIdx).mapM readOperand with
    | error early => simp [hLength, bind, Except.bind]
    | ok operands =>
        cases (inOperatorSlots arguments.zipIdx).mapM readOperator with
        | error late => simp [hLength, bind, Except.bind]
        | ok operators => simp [hLength, bind, Except.bind, pure, Except.pure]

/-- Validation succeeds exactly on the lists of the right length without offenders. -/
theorem exists_validate_eq_ok_iff :
    (∃ tokens, validate arguments = .ok tokens) ↔
      ¬ (arguments.length < minArguments ∨ arguments.length % 2 = 0) ∧
        ¬ HasOffender Argument.NoOperand 0 arguments ∧
          ¬ HasOffender Argument.NoOperator 1 arguments := by
  simp only [exists_ok_iff_ne_error, ne_eq, validate_eq_error_iff]
  constructor
  · intro h
    have hLength : ¬ (arguments.length < minArguments ∨ arguments.length % 2 = 0) :=
      fun hWrong => h _ (.inl ⟨hWrong, rfl⟩)
    have hOperands : ¬ HasOffender Argument.NoOperand 0 arguments := fun hOffender => by
      obtain ⟨position, argument, hFirst⟩ := hasOffender_iff_exists_first.1 hOffender
      exact h _ (.inr ⟨hLength, .inl ⟨position, argument, hFirst, rfl⟩⟩)
    refine ⟨hLength, hOperands, fun hOffender => ?_⟩
    obtain ⟨position, argument, hFirst⟩ := hasOffender_iff_exists_first.1 hOffender
    exact h _ (.inr ⟨hLength, .inr ⟨hOperands, position, argument, hFirst, rfl⟩⟩)
  · rintro ⟨hLength, hOperands, hOperators⟩ failure
      (⟨hWrong, -⟩ | ⟨-, ⟨position, argument, hFirst, -⟩ | ⟨-, position, argument, hFirst, -⟩⟩)
    · exact hLength hWrong
    · exact hOperands ⟨position, argument, hFirst.toOffenderAt⟩
    · exact hOperators ⟨position, argument, hFirst.toOffenderAt⟩

end Passes

/-- A report that is known to be of one position is of the argument there. -/
theorem exists_described_iff {stands : Nat → Argument → Prop} {position : Nat} {found : String} :
    (∃ place argument, stands place argument ∧ position = place ∧ found = argument.described) ↔
      ∃ argument, stands position argument ∧ found = argument.described := by
  constructor
  · rintro ⟨_, argument, hStands, rfl, rfl⟩
    exact ⟨argument, hStands, rfl⟩
  · rintro ⟨argument, hStands, rfl⟩
    exact ⟨position, argument, hStands, rfl, rfl⟩

/-- What validation reports, by its checks in their order.  The length comes first, whatever the arguments
are; then the first argument in an operand slot that is a text or not a number, also behind a bad operator;
then the first one in an operator slot that is none of the four symbols.  The position is that in the whole
list, and the report shows the argument that stands there. -/
theorem validate_check_order (arguments : List Argument) :
    (∀ length, validate arguments = .error (.malformed length) ↔
        (arguments.length < 3 ∨ arguments.length % 2 = 0) ∧ length = arguments.length) ∧
      (∀ position found, validate arguments = .error (.notNumber position found) ↔
        ¬ (arguments.length < 3 ∨ arguments.length % 2 = 0) ∧
          ∃ argument, FirstOffenderAt Argument.NoOperand 0 arguments position argument ∧
            found = argument.kindName ++ " " ++ argument.shown) ∧
      (∀ position found, validate arguments = .error (.notOperator position found) ↔
        ¬ (arguments.length < 3 ∨ arguments.length % 2 = 0) ∧
          ¬ HasOffender Argument.NoOperand 0 arguments ∧
            ∃ argument, FirstOffenderAt Argument.NoOperator 1 arguments position argument ∧
              found = argument.kindName ++ " " ++ argument.shown) ∧
      validate arguments ≠ .error .divisionByZero ∧
      ((∃ tokens, validate arguments = .ok tokens) ↔
        ¬ (arguments.length < 3 ∨ arguments.length % 2 = 0) ∧
          ¬ HasOffender Argument.NoOperand 0 arguments ∧
            ¬ HasOffender Argument.NoOperator 1 arguments) := by
  refine ⟨fun length => ?_, fun position found => ?_, fun position found => ?_, ?_,
    exists_validate_eq_ok_iff⟩
  all_goals
    simp only [ne_eq, validate_eq_error_iff, minArguments, Failure.badOperand, Failure.badOperator,
      Failure.malformed.injEq, Failure.notNumber.injEq, Failure.notOperator.injEq, reduceCtorEq,
      and_false, exists_false, or_false, false_or, not_false_eq_true]
  · exact and_congr_right fun _ => exists_described_iff
  · exact and_congr_right fun _ => and_congr_right fun _ => exists_described_iff

/-- A text in an operand slot is reported although an unknown operator stands before it. -/
theorem validate_check_order_late_operand :
    validate [.number 1, .text "%", .text "2"] = .error (.notNumber 2 "string \"2\"") := by
  refine ((validate_check_order _).2.1 2 _).2 ⟨by decide, .text "2", ⟨⟨rfl, rfl, .text "2"⟩, ?_⟩, ?_⟩
  · rintro earlier hEarlier other ⟨hParity, hStands, hOffends⟩
    obtain rfl : earlier = 0 := by omega
    cases hStands
    cases hOffends
    contradiction
  · decide +kernel

end FlatArith
