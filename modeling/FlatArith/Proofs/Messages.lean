import FlatArith.Failure
import FlatArith.Proofs.NumberTexts
import FlatArith.Proofs.QuotedTexts

/-!
# Messages identify failures

The message of a failure tells its cause by its first characters (`take_message`).  A position ends at the
colon behind it, and what was found is the rest of the message, so nothing in the found text can pass for
another part of a message (`eq_of_positioned`).

`Report` lists the ways in which a failure is made.  What is found is then an argument, and its
description determines it (`described_inj`).  A float that is not a number is the same argument as every
other one: such floats have one text.
-/

namespace FlatArith

namespace Argument

/-- An argument is determined by how it is described. -/
theorem described_inj {first second : Argument} (h : first.described = second.described) :
    first = second := by
  have hLists := congrArg String.toList h
  cases first with
  | number n =>
      cases second with
      | number m =>
          have hText : Number.text n = Number.text m := (String.append_right_inj _).1 h
          rw [Number.text_inj hText]
      | text t => simp [described, kindName] at hLists
  | text s =>
      cases second with
      | number m => simp [described, kindName] at hLists
      | text t =>
          have hQuoted : String.ofList (Text.quote s.toList) = String.ofList (Text.quote t.toList) :=
            (String.append_right_inj _).1 h
          rw [String.toList_inj.1 (Text.quote_inj (String.ofList_injective hQuoted))]

end Argument

namespace Failure

/-- How a message of the cause begins. -/
def Cause.opening : Cause → String
  | .malformed => "invalid input: e"
  | .notNumber => "invalid input ty"
  | .notOperator => "invalid operator"
  | .divisionByZero => "division by zero"

theorem Cause.opening_inj {first second : Cause} (h : first.opening = second.opening) :
    first = second := by
  have decided : ∀ cause ∈ [malformed, notNumber, notOperator, divisionByZero],
      ∀ other ∈ [malformed, notNumber, notOperator, divisionByZero],
        cause.opening = other.opening → cause = other := by
    decide
  exact decided first (by cases first <;> decide) second (by cases second <;> decide) h

theorem take_toList_append {opening : String} {k : Nat} (h : k ≤ opening.toList.length)
    (rest : String) : (opening ++ rest).toList.take k = opening.toList.take k := by
  rw [String.toList_append, List.take_append_of_le_length h]

theorem take_message (failure : Failure) :
    failure.message.toList.take 16 = failure.cause.opening.toList := by
  unfold message
  cases failure with
  | malformed length =>
      dsimp only
      rw [take_toList_append (by simp)]
      simp [cause, Cause.opening]
  | notNumber position found =>
      dsimp only
      rw [String.append_assoc, String.append_assoc, take_toList_append (by simp)]
      simp [cause, Cause.opening]
  | notOperator position found =>
      dsimp only
      rw [String.append_assoc, String.append_assoc, take_toList_append (by simp)]
      simp [cause, Cause.opening]
  | divisionByZero => rfl

/-- Messages of different causes differ. -/
theorem cause_eq_of_message_eq {first second : Failure} (h : first.message = second.message) :
    first.cause = second.cause := by
  have hOpening := congrArg (List.take 16 ∘ String.toList) h
  simp only [Function.comp_apply, take_message] at hOpening
  exact Cause.opening_inj (String.toList_inj.1 hOpening)

theorem toList_toString (n : Nat) : (toString n).toList = Nat.toDigits 10 n :=
  Nat.toList_repr

/-- A position is read up to the colon behind it, whatever comes next. -/
theorem eq_of_positioned {opening closing : String} (hClosing : ∃ label, closing.toList = ':' :: label)
    {n m : Nat} {first second : String}
    (h : opening ++ toString n ++ closing ++ first = opening ++ toString m ++ closing ++ second) :
    n = m ∧ first = second := by
  obtain ⟨label, hLabel⟩ := hClosing
  have noColon : ∀ k, ':' ∉ Nat.toDigits 10 k := fun k hColon =>
    absurd (Nat.isDigit_of_mem_toDigits (by decide) (by decide) hColon) (by decide)
  have hLists := congrArg String.toList h
  simp only [String.toList_append, toList_toString, hLabel, List.append_assoc,
    List.append_cancel_left_eq, List.cons_append] at hLists
  obtain ⟨hDigits, hRest⟩ := eq_of_append_delimiter (noColon n) (noColon m) hLists
  exact ⟨toDigits_inj (by decide) (by decide) hDigits,
    String.toList_inj.1 (List.append_cancel_left hRest)⟩

/-- A failure is determined by its message. -/
theorem message_inj {first second : Failure} (h : first.message = second.message) :
    first = second := by
  have hCause := cause_eq_of_message_eq h
  cases first with
  | malformed n =>
      cases second <;> cases hCause
      next m =>
        have hNumeral := congrArg String.toList ((String.append_right_inj _).1 h)
        rw [toList_toString, toList_toString] at hNumeral
        rw [toDigits_inj (by decide) (by decide) hNumeral]
  | notNumber position found =>
      cases second <;> cases hCause
      next other text =>
        obtain ⟨rfl, rfl⟩ := eq_of_positioned ⟨_, rfl⟩ h
        rfl
  | notOperator position found =>
      cases second <;> cases hCause
      next other text =>
        obtain ⟨rfl, rfl⟩ := eq_of_positioned ⟨_, rfl⟩ h
        rfl
  | divisionByZero =>
      cases second <;> cases hCause
      rfl

end Failure

/-- The ways in which a failure is made, with what it is made from. -/
inductive Report where
  | malformed (length : Nat)
  | badOperand (position : Nat) (argument : Argument)
  | badOperator (position : Nat) (argument : Argument)
  | divisionByZero

namespace Report

/-- The failure that is made. -/
def failure : Report → Failure
  | .malformed length => .malformed length
  | .badOperand position argument => .badOperand position argument
  | .badOperator position argument => .badOperator position argument
  | .divisionByZero => .divisionByZero

/-- A failure tells what it was made from. -/
theorem failure_inj {first second : Report} (h : first.failure = second.failure) : first = second := by
  cases first <;> cases second <;>
    simp_all only [failure, Failure.badOperand, Failure.badOperator, Failure.malformed.injEq,
      Failure.notNumber.injEq, Failure.notOperator.injEq, reduceCtorEq]
  · rw [Argument.described_inj h.2]
  · rw [Argument.described_inj h.2]

/-- The messages of two failures are equal only if the failures are, with their lengths, positions and
found texts; and those of two reports only if the same thing was reported of the same argument at the same
position, texts and numbers being told apart. -/
theorem message_identifies :
    (∀ first second : Failure, first.message = second.message ↔ first = second) ∧
      ∀ first second : Report, first.failure.message = second.failure.message ↔ first = second := by
  refine ⟨fun first second => ⟨Failure.message_inj, congrArg Failure.message⟩,
    fun first second => ⟨fun h => failure_inj (Failure.message_inj h), ?_⟩⟩
  rintro rfl
  rfl

/-- The text of a digit and the number are told apart. -/
example : (badOperand 0 (.text "2")).failure.message ≠ (badOperand 0 (.number 2)).failure.message := by
  decide +kernel

end Report

end FlatArith
