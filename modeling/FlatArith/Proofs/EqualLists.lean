import FlatArith.Calculation
import FlatArith.Proofs.Moves
import FlatArith.Proofs.SignedZeros
import FlatArith.Proofs.ValidTokens

/-!
# Equal lists have equal results

Equality of lists is that of their elements, and numbers are compared as numbers, so equal lists may
differ in the signs of their zeros.  This module follows two runs on such lists side by side.

* `Agree` says of two results that both are failures or both are values, and how the two failures or the
  two values are related.
* Machines whose stacks and tokens differ in the signs of zeros make the same moves and stay so
  (`Machine.Alike`, `move_alike`), so their runs end alike (`run_alike`).
* Validation of equal arguments reports the same position, or gives tokens that differ in the signs of
  zeros (`validate_agree`).  The text of a failure may show such a sign, its place does not.
-/

namespace FlatArith

/-- Both results are failures and the failures are related, or both are values and the values are. -/
inductive Agree {α β : Type} (sameFailure : Failure → Failure → Prop) (sameValue : α → β → Prop) :
    Except Failure α → Except Failure β → Prop
  | error {failure other : Failure} (h : sameFailure failure other) :
      Agree sameFailure sameValue (.error failure) (.error other)
  | ok {a : α} {b : β} (h : sameValue a b) : Agree sameFailure sameValue (.ok a) (.ok b)

namespace Agree

variable {α β γ δ : Type} {sameFailure : Failure → Failure → Prop} {sameValue : α → β → Prop}
  {sameLater : γ → δ → Prop}

theorem imp_failure {weaker : Failure → Failure → Prop} {first : Except Failure α}
    {second : Except Failure β} (h : Agree sameFailure sameValue first second)
    (hWeaker : ∀ failure other, sameFailure failure other → weaker failure other) :
    Agree weaker sameValue first second := by
  cases h with
  | error hFailure => exact .error (hWeaker _ _ hFailure)
  | ok hValue => exact .ok hValue

/-- Results that agree may be used in ways that agree. -/
theorem bind {first : Except Failure α} {second : Except Failure β}
    (h : Agree sameFailure sameValue first second) {later : α → Except Failure γ}
    {later' : β → Except Failure δ}
    (hLater : ∀ a b, sameValue a b → Agree sameFailure sameLater (later a) (later' b)) :
    Agree sameFailure sameLater (first >>= later) (second >>= later') := by
  cases h with
  | error hFailure => exact .error hFailure
  | ok hValue => exact hLater _ _ hValue

/-- Related lists are read into results that agree if their elements are. -/
theorem mapM {related : α → β → Prop} {read : α → Except Failure γ} {read' : β → Except Failure δ}
    {l : List α} {l' : List β} (h : List.Forall₂ related l l')
    (hRead : ∀ a b, related a b → Agree sameFailure sameLater (read a) (read' b)) :
    Agree sameFailure (List.Forall₂ sameLater) (l.mapM read) (l'.mapM read') := by
  induction h with
  | nil => exact .ok .nil
  | cons hFirst _ ih =>
      rw [List.mapM_cons, List.mapM_cons]
      exact (hRead _ _ hFirst).bind fun a b hValue =>
        ih.bind fun later later' hLater => .ok (.cons hValue hLater)

end Agree

section Lists

variable {α : Type} {related : α → α → Prop} {l l' : List α}

/-- Equal lists have equal elements. -/
theorem forall₂_of_beq [BEq α] (h : (l == l') = true) :
    List.Forall₂ (fun a b => (a == b) = true) l l' := by
  induction l generalizing l' with
  | nil =>
      cases l' with
      | nil => exact .nil
      | cons b later => cases h
  | cons a rest ih =>
      cases l' with
      | nil => cases h
      | cons b later =>
          rw [List.cons_beq_cons, Bool.and_eq_true] at h
          exact .cons h.1 (ih h.2)

theorem forall₂_zipIdx (h : List.Forall₂ related l l') (first : Nat) :
    List.Forall₂ (fun entry other => related entry.1 other.1 ∧ entry.2 = other.2)
      (l.zipIdx first) (l'.zipIdx first) := by
  induction h generalizing first with
  | nil => exact .nil
  | cons hFirst _ ih => exact .cons ⟨hFirst, rfl⟩ (ih (first + 1))

theorem forall₂_everyOther (h : List.Forall₂ related l l') :
    List.Forall₂ related (everyOther l) (everyOther l') := by
  fun_induction everyOther l generalizing l' with
  | case1 =>
      cases h
      exact .nil
  | case2 a =>
      obtain ⟨b, later, hFirst, hRest, rfl⟩ := List.forall₂_cons_left_iff.1 h
      cases hRest
      exact .cons hFirst .nil
  | case3 a second rest ih =>
      obtain ⟨b, later, hFirst, hLater, rfl⟩ := List.forall₂_cons_left_iff.1 h
      obtain ⟨other, rest', -, hRest, rfl⟩ := List.forall₂_cons_left_iff.1 hLater
      exact .cons hFirst (ih hRest)

theorem forall₂_tail (h : List.Forall₂ related l l') : List.Forall₂ related l.tail l'.tail := by
  cases h with
  | nil => exact .nil
  | cons _ hRest => exact hRest

end Lists

/-- The tokens are the same operator, or numbers that are alike. -/
inductive Token.Alike : Token → Token → Prop
  | number {n m : Float} (h : FlatArith.Alike n m) : Token.Alike (.number n) (.number m)
  | operator (op : Operator) : Token.Alike (.operator op) (.operator op)

theorem Token.alike_of_beq {token other : Token} (h : (token == other) = true) :
    token.Alike other := by
  match token, other with
  | .number n, .number m => exact .number (.inl h)
  | .operator op, .operator last =>
      obtain rfl : op = last := beq_iff_eq.1 h
      exact .operator op
  | .number n, .operator op => cases h
  | .operator op, .number n => cases h

/-- The machines differ at most in the signs of zeros. -/
structure Machine.Alike (m m' : Machine) : Prop where
  slot : m.slot = m'.slot
  pending : List.Forall₂ Token.Alike m.pending m'.pending
  operands : List.Forall₂ FlatArith.Alike m.operands m'.operands
  operators : m.operators = m'.operators

/-- The moves are of the same kind, and they lead to machines or outcomes that are alike. -/
inductive Move.Alike : Move → Move → Prop
  | shift {next next' : Machine} (h : next.Alike next') : Move.Alike (.shift next) (.shift next')
  | reduce {next next' : Machine} (reduction reduction' : Reduction) (h : next.Alike next') :
      Move.Alike (.reduce reduction next) (.reduce reduction' next')
  | halt {outcome outcome' : Outcome} (h : Agree Eq FlatArith.Alike outcome outcome') :
      Move.Alike (.halt outcome) (.halt outcome')

namespace Move.Alike

variable {next : Machine} {move : Move}

theorem of_shift (h : (Move.shift next).Alike move) :
    ∃ next', move = .shift next' ∧ next.Alike next' := by
  cases h with
  | shift hNext => exact ⟨_, rfl, hNext⟩

theorem of_reduce {reduction : Reduction} (h : (Move.reduce reduction next).Alike move) :
    ∃ reduction' next', move = .reduce reduction' next' ∧ next.Alike next' := by
  cases h with
  | reduce _ _ hNext => exact ⟨_, _, rfl, hNext⟩

theorem of_halt {outcome : Outcome} (h : (Move.halt outcome).Alike move) :
    ∃ outcome', move = .halt outcome' ∧ Agree Eq FlatArith.Alike outcome outcome' := by
  cases h with
  | halt hOutcome => exact ⟨_, rfl, hOutcome⟩

end Move.Alike

namespace Calculator

variable (c : Calculator) (length : Nat) {m m' : Machine}

section Moves

theorem applying_alike (op : Operator) {left left' right right' : Float} {after after' : Float → Machine}
    (hLeft : Alike left left') (hRight : Alike right right')
    (hAfter : ∀ result result', Alike result result' → (after result).Alike (after' result')) :
    (c.applying op left right after).Alike (c.applying op left' right' after') := by
  rcases Alike.cases_apply c op hLeft hRight with ⟨hFails, hFails'⟩ |
    ⟨result, result', hApply, hApply', hResult⟩
  · rw [c.applying_of_error hFails, c.applying_of_error hFails']
    exact .halt (.error rfl)
  · rw [c.applying_of_ok hApply, c.applying_of_ok hApply']
    exact .reduce _ _ (hAfter result result' hResult)

theorem reduceTop_alike (h : m.Alike m') (top : Operator) (below : List Operator) :
    (c.reduceTop length m top below).Alike (c.reduceTop length m' top below) := by
  obtain ⟨slot, pending, operands, operators⟩ := m
  obtain ⟨slot', pending', operands', operators'⟩ := m'
  obtain ⟨hSlot, hPending, hOperands, hOperators⟩ := h
  match operands, operands', hOperands with
  | _, _, .nil => exact .halt (.error rfl)
  | _, _, .cons _ .nil => exact .halt (.error rfl)
  | _, _, .cons hRight (.cons hLeft hRest) =>
      exact c.applying_alike top hLeft hRight fun result result' hResult =>
        ⟨hSlot, hPending, .cons hResult hRest, rfl⟩

theorem moveOperator_alike (h : m.Alike m') (op : Operator) {rest rest' : List Token}
    (hRest : List.Forall₂ Token.Alike rest rest') :
    (c.moveOperator length m op rest).Alike (c.moveOperator length m' op rest') := by
  have hPush : (m.pushOperator op rest).Alike (m'.pushOperator op rest') :=
    ⟨rfl, hRest, h.operands, congrArg (op :: ·) h.operators⟩
  unfold moveOperator
  rw [← h.operators]
  split
  · split
    · exact c.reduceTop_alike length h _ _
    · exact .shift hPush
  · exact .shift hPush

theorem moveAtEnd_alike (h : m.Alike m') :
    (c.moveAtEnd length m).Alike (c.moveAtEnd length m') := by
  unfold moveAtEnd
  rw [← h.operators]
  split
  · exact c.reduceTop_alike length h _ _
  · obtain ⟨slot, pending, operands, operators⟩ := m
    obtain ⟨slot', pending', operands', operators'⟩ := m'
    obtain ⟨-, -, hOperands, -⟩ := h
    match operands, operands', hOperands with
    | _, _, .nil => exact .halt (.error rfl)
    | _, _, .cons hValue .nil => exact .halt (.ok hValue)
    | _, _, .cons _ (.cons _ _) => exact .halt (.error rfl)

/-- Machines that are alike make moves that are alike. -/
theorem move_alike (h : m.Alike m') : (c.move length m).Alike (c.move length m') := by
  have hMachines := h
  obtain ⟨slot, pending, operands, operators⟩ := m
  obtain ⟨slot', pending', operands', operators'⟩ := m'
  obtain ⟨rfl, hPending, hOperands, hOperators⟩ := h
  match pending, pending', hPending with
  | _, _, .nil => exact c.moveAtEnd_alike length hMachines
  | _, _, .cons (.number hNumber) hRest =>
      cases slot with
      | operand => exact .shift ⟨rfl, hRest, .cons hNumber hOperands, hOperators⟩
      | operator => exact .halt (.error rfl)
  | _, _, .cons (.operator op) hRest =>
      cases slot with
      | operand => exact .halt (.error rfl)
      | operator => exact c.moveOperator_alike length hMachines op hRest

/-- The runs of machines that are alike end with the same failure or with values that are alike. -/
theorem run_alike (h : m.Alike m') :
    Agree Eq Alike (c.run length m).outcome (c.run length m').outcome := by
  induction m using induction_run c length generalizing m' with
  | shift m next hMove ih =>
      have hMoves := c.move_alike length h
      rw [hMove] at hMoves
      obtain ⟨next', hMove', hNext⟩ := hMoves.of_shift
      rw [run_of_shift hMove, run_of_shift hMove']
      exact ih hNext
  | reduce m reduction next hMove ih =>
      have hMoves := c.move_alike length h
      rw [hMove] at hMoves
      obtain ⟨reduction', next', hMove', hNext⟩ := hMoves.of_reduce
      rw [run_of_reduce hMove, run_of_reduce hMove']
      exact ih hNext
  | halt m outcome hMove =>
      have hMoves := c.move_alike length h
      rw [hMove] at hMoves
      obtain ⟨outcome', hMove', hOutcome⟩ := hMoves.of_halt
      rw [run_of_halt hMove, run_of_halt hMove']
      exact hOutcome

end Moves

/-- Tokens that are alike have outcomes that are alike. -/
theorem evaluate_alike {tokens tokens' : List Token} (h : List.Forall₂ Token.Alike tokens tokens') :
    Agree Eq Alike (c.evaluate tokens) (c.evaluate tokens') := by
  unfold evaluate runTokens
  rw [h.length_eq]
  exact c.run_alike _ ⟨rfl, h, .nil, rfl⟩

end Calculator

section Validation

/-- The length or the position that a failure names. -/
def Failure.place? : Failure → Option Nat
  | .malformed length => some length
  | .notNumber position _ => some position
  | .notOperator position _ => some position
  | .divisionByZero => none

/-- The failures have the same cause and name the same length or position. -/
structure Failure.SamePlace (failure other : Failure) : Prop where
  cause : failure.cause = other.cause
  place : failure.place? = other.place?

theorem Failure.SamePlace.refl (failure : Failure) : failure.SamePlace failure := ⟨rfl, rfl⟩

theorem Failure.SamePlace.badOperand (position : Nat) (argument other : Argument) :
    (Failure.badOperand position argument).SamePlace (Failure.badOperand position other) :=
  ⟨rfl, rfl⟩

theorem Failure.SamePlace.badOperator (position : Nat) (argument other : Argument) :
    (Failure.badOperator position argument).SamePlace (Failure.badOperator position other) :=
  ⟨rfl, rfl⟩

theorem readOperand_text (s : String) (position : Nat) :
    readOperand (.text s, position) = .error (.badOperand position (.text s)) :=
  rfl

theorem readOperator_number (n : Float) (position : Nat) :
    readOperator (.number n, position) = .error (.badOperator position (.number n)) :=
  rfl

variable {entry other : Argument × Nat}

theorem readOperand_agree (h : (entry.1 == other.1) = true ∧ entry.2 = other.2) :
    Agree Failure.SamePlace Alike (readOperand entry) (readOperand other) := by
  obtain ⟨argument, position⟩ := entry
  obtain ⟨argument', position'⟩ := other
  obtain ⟨hArgument, rfl⟩ := h
  match argument, argument' with
  | .number n, .number m =>
      have hEqual : (n == m) = true := hArgument
      obtain ⟨hNumber, hNumber'⟩ := isNaN_of_beq hEqual
      rw [readOperand_eq_ok_iff.2 ⟨rfl, hNumber⟩, readOperand_eq_ok_iff.2 ⟨rfl, hNumber'⟩]
      exact .ok (.inl hEqual)
  | .text s, .text t =>
      rw [readOperand_text, readOperand_text]
      exact .error (.badOperand position _ _)
  | .number n, .text t => cases hArgument
  | .text s, .number m => cases hArgument

theorem readOperator_agree (h : (entry.1 == other.1) = true ∧ entry.2 = other.2) :
    Agree Failure.SamePlace Eq (readOperator entry) (readOperator other) := by
  obtain ⟨argument, position⟩ := entry
  obtain ⟨argument', position'⟩ := other
  obtain ⟨hArgument, rfl⟩ := h
  match argument, argument' with
  -- Neither is an operator.  The failures show the numbers, but they name the same position.
  | .number n, .number m =>
      rw [readOperator_number, readOperator_number]
      exact .error (.badOperator position _ _)
  | .text s, .text t =>
      obtain rfl : s = t := beq_iff_eq.1 hArgument
      cases readOperator (.text s, position) with
      | error failure => exact .error (.refl failure)
      | ok op => exact .ok rfl
  | .number n, .text t => cases hArgument
  | .text s, .number m => cases hArgument

theorem interleave_alike {operands operands' : List Float}
    (h : List.Forall₂ Alike operands operands') (operators : List Operator) :
    List.Forall₂ Token.Alike (interleave operands operators) (interleave operands' operators) := by
  induction h generalizing operators with
  | nil => exact .nil
  | cons hFirst _ ih =>
      cases operators with
      | nil => exact .cons (.number hFirst) (ih [])
      | cons op later => exact .cons (.number hFirst) (.cons (.operator op) (ih later))

/-- Equal arguments are rejected for the same cause and place, or give tokens that are alike. -/
theorem validate_agree {arguments arguments' : List Argument} (h : (arguments == arguments') = true) :
    Agree Failure.SamePlace (List.Forall₂ Token.Alike) (validate arguments) (validate arguments') := by
  have hArguments := forall₂_of_beq h
  have hEntries := forall₂_zipIdx hArguments 0
  unfold validate
  rw [hArguments.length_eq]
  split
  · exact .error (.refl _)
  · refine (Agree.mapM (forall₂_everyOther hEntries) fun _ _ => readOperand_agree).bind
      fun operands operands' hOperands => ?_
    refine (Agree.mapM (forall₂_everyOther (forall₂_tail hEntries)) fun _ _ =>
      readOperator_agree).bind fun operators operators' hOperators => ?_
    rw [List.forall₂_eq_eq_eq] at hOperators
    subst hOperators
    exact .ok (interleave_alike hOperands operators)

end Validation

namespace Calculator

/-- Equal lists of tokens, well formed or not, have the same failure or values that are equal as numbers
or both none.  Equal lists of arguments have failures of the same cause and place or such values. -/
theorem agree_of_beq (c : Calculator) :
    (∀ tokens tokens' : List Token, (tokens == tokens') = true →
        Agree Eq Alike (c.evaluate tokens) (c.evaluate tokens')) ∧
      ∀ arguments arguments' : List Argument, (arguments == arguments') = true →
        Agree Failure.SamePlace Alike (c.calculate arguments) (c.calculate arguments') := by
  constructor
  · intro tokens tokens' h
    exact c.evaluate_alike ((forall₂_of_beq h).imp fun _ _ => Token.alike_of_beq)
  · intro arguments arguments' h
    refine (validate_agree h).bind fun tokens tokens' hTokens => ?_
    exact (c.evaluate_alike hTokens).imp_failure fun failure _ hSame => hSame ▸ .refl failure

/-- The signs of the zeros decide about the sign of the product, and about the text of a failure, but not
about its place. -/
theorem agree_of_beq_signed :
    ([Token.number 0, .operator .times, .number (-1)] ==
        [Token.number (-0), .operator .times, .number (-1)]) = true ∧
      Agree Eq Alike (standard.evaluate [.number 0, .operator .times, .number (-1)])
        (standard.evaluate [.number (-0), .operator .times, .number (-1)]) ∧
      ([Argument.number 1, .number 0, .number 2] ==
        [Argument.number 1, .number (-0), .number 2]) = true ∧
      Agree Failure.SamePlace Alike (standard.calculate [.number 1, .number 0, .number 2])
        (standard.calculate [.number 1, .number (-0), .number 2]) := by
  have hTokens : ([Token.number 0, .operator .times, .number (-1)] ==
      [Token.number (-0), .operator .times, .number (-1)]) = true := by
    decide +kernel
  have hArguments : ([Argument.number 1, .number 0, .number 2] ==
      [Argument.number 1, .number (-0), .number 2]) = true := by
    decide +kernel
  exact ⟨hTokens, (agree_of_beq standard).1 _ _ hTokens, hArguments,
    (agree_of_beq standard).2 _ _ hArguments⟩

end Calculator

end FlatArith
