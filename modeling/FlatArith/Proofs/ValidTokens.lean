import FlatArith.Validation
import Mathlib.Data.List.Forall2

/-!
# The tokens of a valid list of arguments

Validation reads the operand slots and the operator slots apart and then puts the two kinds together
by turns.  `validate_eq_ok_iff_slots` says exactly which lists it accepts and with which tokens.  The
tokens are well formed, and each is made from the argument at its own position (`tokens_of_validate`).
-/

namespace FlatArith

section Slots

variable {α β : Type}

theorem everyOther_cons (a : α) (rest : List α) : everyOther (a :: rest) = a :: everyOther rest.tail := by
  cases rest with
  | nil => rfl
  | cons b rest => rfl

theorem mem_of_mem_everyOther {a : α} {l : List α} (h : a ∈ everyOther l) : a ∈ l := by
  fun_induction everyOther l with
  | case1 => exact h
  | case2 b => exact h
  | case3 b c rest ih =>
      rcases List.mem_cons.1 h with rfl | hRest
      · exact List.mem_cons_self
      · exact List.mem_cons_of_mem _ (List.mem_cons_of_mem _ (ih hRest))

theorem map_everyOther (f : α → β) (l : List α) : (everyOther l).map f = everyOther (l.map f) := by
  fun_induction everyOther l with
  | case1 => rfl
  | case2 a => rfl
  | case3 a b rest ih => simp only [List.map_cons, everyOther, ih]

theorem map_inOperandSlots (f : α → β) (l : List α) :
    (inOperandSlots l).map f = inOperandSlots (l.map f) :=
  map_everyOther f l

theorem map_inOperatorSlots (f : α → β) (l : List α) :
    (inOperatorSlots l).map f = inOperatorSlots (l.map f) := by
  rw [inOperatorSlots, map_everyOther, List.map_tail, inOperatorSlots]

/-- The elements of the operand slots do not depend on their numbering. -/
theorem map_fst_inOperandSlots (l : List α) :
    (inOperandSlots l.zipIdx).map Prod.fst = inOperandSlots l := by
  rw [map_inOperandSlots, List.zipIdx_map_fst]

theorem map_fst_inOperatorSlots (l : List α) :
    (inOperatorSlots l.zipIdx).map Prod.fst = inOperatorSlots l := by
  rw [map_inOperatorSlots, List.zipIdx_map_fst]

/-- A list is read by reading its elements one by one. -/
theorem mapM_eq_ok_iff {read : α → Except Failure β} {l : List α} {values : List β} :
    l.mapM read = .ok values ↔ List.Forall₂ (fun a b => read a = .ok b) l values := by
  constructor
  · intro h
    induction l generalizing values with
    | nil => cases h; exact .nil
    | cons a rest ih =>
        rw [List.mapM_cons] at h
        cases hFirst : read a with
        | error failure => rw [hFirst] at h; cases h
        | ok b =>
            cases hRest : rest.mapM read with
            | error failure => rw [hFirst, hRest] at h; cases h
            | ok later =>
                rw [hFirst, hRest] at h
                cases h
                exact .cons hFirst (ih hRest)
  · intro h
    induction h with
    | nil => rfl
    | cons hFirst _ ih =>
        rw [List.mapM_cons, hFirst, ih]
        rfl

theorem forall₂_and_right {related : α → β → Prop} {p : β → Prop} {l : List α} {values : List β} :
    List.Forall₂ (fun a b => related a b ∧ p b) l values ↔
      List.Forall₂ related l values ∧ ∀ b ∈ values, p b := by
  have hFlip : List.Forall₂ (fun a b => related a b ∧ p b) l values ↔
      List.Forall₂ (fun b a => p b ∧ related a b) values l :=
    ⟨fun h => (h.imp fun _ _ => And.symm).flip, fun h => (h.imp fun _ _ => And.symm).flip⟩
  rw [hFlip, List.forall₂_and_left, and_comm]
  exact and_congr_left fun _ => ⟨List.Forall₂.flip, List.Forall₂.flip⟩

/-- The elements look one by one like written values. -/
theorem forall₂_iff_map_eq {γ : Type} {shape : α → γ} {write : β → γ} {l : List α}
    {values : List β} :
    List.Forall₂ (fun a b => shape a = write b) l values ↔ l.map shape = values.map write := by
  rw [← List.forall₂_map_right_iff, ← List.forall₂_map_left_iff, List.forall₂_eq_eq_eq]

end Slots

/-- An argument reads as an operand exactly when it is that number and the number is usable. -/
theorem readOperand_eq_ok_iff {entry : Argument × Nat} {n : Float} :
    readOperand entry = .ok n ↔ entry.1 = .number n ∧ n.isNaN = false := by
  rw [← Argument.number?_eq_some_iff, readOperand]
  cases entry.1.number? with
  | none => simp
  | some m => simp

/-- An argument reads as an operator exactly when it is the text of its symbol. -/
theorem readOperator_eq_ok_iff {entry : Argument × Nat} {op : Operator} :
    readOperator entry = .ok op ↔ entry.1 = .ofOperator op := by
  rw [← Argument.operator?_eq_some_iff, readOperator]
  cases entry.1.operator? with
  | none => simp
  | some last => simp

theorem mapM_readOperand_eq_ok_iff {entries : List (Argument × Nat)} {operands : List Float} :
    entries.mapM readOperand = .ok operands ↔
      entries.map Prod.fst = operands.map .number ∧ ∀ n ∈ operands, n.isNaN = false := by
  rw [mapM_eq_ok_iff, ← forall₂_iff_map_eq, ← forall₂_and_right]
  simp only [readOperand_eq_ok_iff]

theorem mapM_readOperator_eq_ok_iff {entries : List (Argument × Nat)}
    {operators : List Operator} :
    entries.mapM readOperator = .ok operators ↔
      entries.map Prod.fst = operators.map .ofOperator := by
  rw [mapM_eq_ok_iff, ← forall₂_iff_map_eq]
  simp only [readOperator_eq_ok_iff]

/-- Numbers and operators put together by turns are well formed and spell the list that they were read
from, if its length is odd. -/
theorem interleave_of_slots {arguments : List Argument} (hOdd : arguments.length % 2 = 1)
    {operands : List Float} {operators : List Operator}
    (hOperands : inOperandSlots arguments = operands.map .number)
    (hOperators : inOperatorSlots arguments = operators.map .ofOperator) :
    arguments = (interleave operands operators).map Token.toArgument ∧
      Token.WellFormed (interleave operands operators) := by
  -- The induction takes an operand and the operator after it off all three lists.
  unfold inOperandSlots at hOperands
  unfold inOperatorSlots at hOperators
  fun_induction everyOther arguments generalizing operands operators with
  | case1 => cases hOdd
  | case2 a =>
      cases operands with
      | nil => cases hOperands
      | cons n numbers =>
          obtain ⟨rfl, hNumbers⟩ := List.cons.inj hOperands
          obtain rfl : numbers = [] := List.map_eq_nil_iff.1 hNumbers.symm
          obtain rfl : operators = [] := List.map_eq_nil_iff.1 hOperators.symm
          exact ⟨rfl, trivial, rfl⟩
  | case3 a b rest ih =>
      rw [List.tail_cons, everyOther_cons] at hOperators
      cases operands with
      | nil => cases hOperands
      | cons n numbers =>
          cases operators with
          | nil => cases hOperators
          | cons op later =>
              obtain ⟨rfl, hNumbers⟩ := List.cons.inj hOperands
              obtain ⟨rfl, hLater⟩ := List.cons.inj hOperators
              have hRestOdd : rest.length % 2 = 1 := by
                simp only [List.length_cons] at hOdd
                omega
              obtain ⟨hRest, hWellFormed⟩ := ih hRestOdd hNumbers hLater
              refine ⟨?_, trivial, trivial, hWellFormed⟩
              rw [interleave, List.map_cons, List.map_cons, ← hRest]
              rfl

/-- Validation accepts the lists of an odd length of at least three that have usable numbers in their
operand slots and symbols in their operator slots, and puts the two together by turns. -/
theorem validate_eq_ok_iff_slots {arguments : List Argument} {tokens : List Token} :
    validate arguments = .ok tokens ↔
      ¬ (arguments.length < minArguments ∨ arguments.length % 2 = 0) ∧
        ∃ operands operators,
          (inOperandSlots arguments = operands.map .number ∧ ∀ n ∈ operands, n.isNaN = false) ∧
            inOperatorSlots arguments = operators.map .ofOperator ∧
            interleave operands operators = tokens := by
  simp only [← map_fst_inOperandSlots arguments, ← map_fst_inOperatorSlots arguments,
    ← mapM_readOperand_eq_ok_iff, ← mapM_readOperator_eq_ok_iff]
  unfold validate
  constructor
  · intro h
    split at h
    · cases h
    · next hLength =>
        cases hOperands : (inOperandSlots arguments.zipIdx).mapM readOperand with
        | error failure => rw [hOperands] at h; cases h
        | ok operands =>
            cases hOperators : (inOperatorSlots arguments.zipIdx).mapM readOperator with
            | error failure => rw [hOperands, hOperators] at h; cases h
            | ok operators =>
                rw [hOperands, hOperators] at h
                exact ⟨hLength, operands, operators, rfl, rfl, Except.ok.inj h⟩
  · rintro ⟨hLength, operands, operators, hOperands, hOperators, rfl⟩
    rw [if_neg hLength, hOperands, hOperators]
    rfl

/-- The tokens of a valid list are well formed, and each is made from the argument at its position. -/
theorem tokens_of_validate {arguments : List Argument} {tokens : List Token}
    (h : validate arguments = .ok tokens) :
    arguments = tokens.map Token.toArgument ∧ Token.WellFormed tokens := by
  obtain ⟨hLength, operands, operators, ⟨hOperands, -⟩, hOperators, rfl⟩ :=
    validate_eq_ok_iff_slots.1 h
  exact interleave_of_slots (by omega) hOperands hOperators

end FlatArith
