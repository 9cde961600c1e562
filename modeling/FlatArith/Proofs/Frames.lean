import FlatArith.Proofs.Runs

/-!
# The machine's stacks as frames

Between two moves an operator on the stack has its left operand and waits for the right one.  Such a pair
is a frame, and the two stacks of the machine are one list of frames, the topmost first, with at most one
more operand on top.

* `Machine.beforeOperand` and `Machine.beforeOperator` are the states of that form.
* `Calculator.load` is what the machine does with a number and the operator after it, and
  `Calculator.close` what it does with the frames that are left after the last token.
* The theorems `run_…` replace the moves on these states by `load` and `close`, with the reductions
  that the moves report.
-/

namespace FlatArith

/-- An operator with its left operand. -/
structure Frame where
  left : Float
  operator : Operator

namespace Machine

/-- The machine with the frames on its stacks, about to read an operand. -/
def beforeOperand (frames : List Frame) (pending : List Token) : Machine where
  slot := .operand
  pending := pending
  operands := frames.map Frame.left
  operators := frames.map Frame.operator

/-- The machine with the frames and one more operand on its stacks, about to read an operator. -/
def beforeOperator (frames : List Frame) (n : Float) (pending : List Token) : Machine where
  slot := .operator
  pending := pending
  operands := n :: frames.map Frame.left
  operators := frames.map Frame.operator

theorem start_eq_beforeOperand (tokens : List Token) : start tokens = beforeOperand [] tokens := rfl

end Machine

namespace Calculator

variable (c : Calculator)

/-- Reduces the topmost frames that bind at least as tightly as the rank.  The number is the operand on
top of the frames. -/
def settle (rank : Nat) : List Frame → Float → Run (List Frame × Float)
  | [], n => pure ([], n)
  | frame :: below, n =>
      if rank ≤ frame.operator.rank then do
        let result ← c.perform frame.operator frame.left n
        settle rank below result
      else pure (frame :: below, n)

/-- Takes in a number and the operator after it. -/
def load (frames : List Frame) (n : Float) (op : Operator) : Run (List Frame) := do
  let settled ← c.settle op.rank frames n
  return ⟨settled.2, op⟩ :: settled.1

/-- Reduces all frames from the top. -/
def close (frames : List Frame) (n : Float) : Run Float :=
  frames.foldlM (fun right frame => c.perform frame.operator frame.left right) n

@[simp] theorem close_nil (n : Float) : c.close [] n = pure n := rfl

@[simp] theorem close_cons (frame : Frame) (below : List Frame) (n : Float) :
    c.close (frame :: below) n = c.perform frame.operator frame.left n >>= c.close below := rfl

theorem close_append (upper lower : List Frame) (n : Float) :
    c.close (upper ++ lower) n = c.close upper n >>= c.close lower :=
  List.foldlM_append

/-- Frames that bind at least as tightly as the rank are reduced before any below them. -/
theorem settle_append {rank : Nat} {upper : List Frame}
    (h : ∀ frame ∈ upper, rank ≤ frame.operator.rank) (lower : List Frame) (n : Float) :
    c.settle rank (upper ++ lower) n = c.close upper n >>= c.settle rank lower := by
  induction upper generalizing n with
  | nil => rfl
  | cons frame rest ih =>
      have hFrame := h frame List.mem_cons_self
      have hRest : ∀ later ∈ rest, rank ≤ later.operator.rank := fun later hLater =>
        h later (List.mem_cons_of_mem _ hLater)
      simp only [List.cons_append, settle, hFrame, if_true, close_cons, bind_assoc, ih hRest]

/-- Frames that bind less tightly than the rank stay. -/
theorem settle_of_lt {rank : Nat} {frames : List Frame}
    (h : ∀ frame ∈ frames, frame.operator.rank < rank) (n : Float) :
    c.settle rank frames n = pure (frames, n) := by
  cases frames with
  | nil => rfl
  | cons frame below =>
      have hFrame := h frame List.mem_cons_self
      simp only [settle, Nat.not_le.2 hFrame, if_false]

/-- The move that applies an operator and goes on from its result. -/
def applying (op : Operator) (left right : Float) (next : Float → Machine) : Move :=
  match c.apply op left right with
  | .ok result => .reduce ⟨op, left, right, result⟩ (next result)
  | .error failure => .halt (.error failure)

theorem applying_of_ok {op : Operator} {left right result : Float}
    (h : c.apply op left right = .ok result) (next : Float → Machine) :
    c.applying op left right next = .reduce ⟨op, left, right, result⟩ (next result) := by
  simp only [applying, h]

theorem applying_of_error {op : Operator} {left right : Float} {failure : Failure}
    (h : c.apply op left right = .error failure) (next : Float → Machine) :
    c.applying op left right next = .halt (.error failure) := by
  simp only [applying, h]

theorem applying_ne_shift {c : Calculator} {op : Operator} {left right : Float}
    {after : Float → Machine} {next : Machine} : c.applying op left right after ≠ .shift next := by
  unfold applying
  split <;> exact Move.noConfusion

/-- A reduction shows the operands that the operator was applied to. -/
theorem exists_of_applying_eq_reduce {c : Calculator} {op : Operator} {left right : Float}
    {after : Float → Machine} {reduction : Reduction} {next : Machine}
    (h : c.applying op left right after = .reduce reduction next) :
    ∃ result, c.apply op left right = .ok result ∧ reduction = ⟨op, left, right, result⟩ ∧
      next = after result := by
  cases hApply : c.apply op left right with
  | ok result =>
      rw [c.applying_of_ok hApply] at h
      cases h
      exact ⟨result, rfl, rfl, rfl⟩
  | error failure =>
      rw [c.applying_of_error hApply] at h
      cases h

theorem exists_of_applying_eq_halt {c : Calculator} {op : Operator} {left right : Float}
    {after : Float → Machine} {outcome : Outcome}
    (h : c.applying op left right after = .halt outcome) :
    ∃ failure, c.apply op left right = .error failure ∧ outcome = .error failure := by
  cases hApply : c.apply op left right with
  | ok result =>
      rw [c.applying_of_ok hApply] at h
      cases h
  | error failure =>
      rw [c.applying_of_error hApply] at h
      cases h
      exact ⟨failure, rfl, rfl⟩

section Moves

variable (length : Nat)

/-- The run from a state in which the machine applies an operator. -/
theorem run_of_applying {m : Machine} {op : Operator} {left right : Float} {next : Float → Machine}
    (h : c.move length m = c.applying op left right next) :
    c.run length m = c.perform op left right >>= fun result => c.run length (next result) := by
  cases hApply : c.apply op left right with
  | ok result =>
      rw [c.applying_of_ok hApply] at h
      rw [run_of_reduce h, c.perform_bind_of_ok hApply]
  | error failure =>
      rw [c.applying_of_error hApply] at h
      rw [run_of_halt h, c.perform_bind_of_error hApply]

/-- A number that is read goes on top of the frames. -/
theorem move_number (frames : List Frame) (n : Float) (rest : List Token) :
    c.move length (.beforeOperand frames (.number n :: rest)) =
      .shift (.beforeOperator frames n rest) :=
  rfl

/-- An operator in an operand slot halts the machine. -/
theorem move_operator_misplaced (frames : List Frame) (op : Operator) (rest : List Token) :
    c.move length (.beforeOperand frames (.operator op :: rest)) =
      .halt (.error (.malformed length)) :=
  rfl

/-- A number in an operator slot halts the machine. -/
theorem move_number_misplaced (frames : List Frame) (n m : Float) (rest : List Token) :
    c.move length (.beforeOperator frames n (.number m :: rest)) =
      .halt (.error (.malformed length)) :=
  rfl

/-- The topmost frame is reduced before an operator that binds no more tightly. -/
theorem move_operator_of_le {frame : Frame} {op : Operator}
    (h : op.rank ≤ frame.operator.rank) (below : List Frame) (n : Float) (rest : List Token) :
    c.move length (.beforeOperator (frame :: below) n (.operator op :: rest)) =
      c.applying frame.operator frame.left n fun result =>
        .beforeOperator below result (.operator op :: rest) :=
  if_pos h

/-- An operator that binds more tightly than the topmost frame makes a frame of its own. -/
theorem move_operator_of_lt {frames : List Frame} {op : Operator}
    (h : ∀ frame ∈ frames.head?, frame.operator.rank < op.rank) (n : Float) (rest : List Token) :
    c.move length (.beforeOperator frames n (.operator op :: rest)) =
      .shift (.beforeOperand (⟨n, op⟩ :: frames) rest) := by
  cases frames with
  | nil => rfl
  | cons frame below => exact if_neg (Nat.not_le.2 (h frame rfl))

/-- After the last number the topmost frame is reduced. -/
theorem move_end (frame : Frame) (below : List Frame) (n : Float) :
    c.move length (.beforeOperator (frame :: below) n []) =
      c.applying frame.operator frame.left n fun result => .beforeOperator below result [] :=
  rfl

/-- After a last operator the topmost frame takes its left number for its right operand, and the left
number of the frame below it for its left operand. -/
theorem move_end_operator (upper lower : Frame) (below : List Frame) :
    c.move length (.beforeOperand (upper :: lower :: below) []) =
      c.applying upper.operator lower.left upper.left fun result =>
        .beforeOperand (⟨result, lower.operator⟩ :: below) [] :=
  rfl

/-- What the machine does before an operand. -/
theorem cases_move_beforeOperand (frames : List Frame) (pending : List Token) :
    (∃ n rest, pending = .number n :: rest ∧
        c.move length (.beforeOperand frames pending) = .shift (.beforeOperator frames n rest)) ∨
      (∃ upper lower below, pending = [] ∧ frames = upper :: lower :: below ∧
        c.move length (.beforeOperand frames pending) =
          c.applying upper.operator lower.left upper.left fun result =>
            .beforeOperand (⟨result, lower.operator⟩ :: below) []) ∨
      c.move length (.beforeOperand frames pending) = .halt (.error (.malformed length)) := by
  match frames, pending with
  | frames, .number n :: rest => exact .inl ⟨n, rest, rfl, rfl⟩
  | frames, .operator op :: rest => exact .inr (.inr rfl)
  | upper :: lower :: below, [] => exact .inr (.inl ⟨upper, lower, below, rfl, rfl, rfl⟩)
  | [frame], [] => exact .inr (.inr rfl)
  | [], [] => exact .inr (.inr rfl)

/-- What the machine does before an operator. -/
theorem cases_move_beforeOperator (frames : List Frame) (n : Float) (pending : List Token) :
    (∃ op rest, pending = .operator op :: rest ∧
        (∀ frame ∈ frames.head?, frame.operator.rank < op.rank) ∧
        c.move length (.beforeOperator frames n pending) =
          .shift (.beforeOperand (⟨n, op⟩ :: frames) rest)) ∨
      (∃ frame below, frames = frame :: below ∧
        c.move length (.beforeOperator frames n pending) =
          c.applying frame.operator frame.left n fun result =>
            .beforeOperator below result pending) ∨
      (∃ m rest, pending = .number m :: rest ∧
        c.move length (.beforeOperator frames n pending) = .halt (.error (.malformed length))) ∨
      (frames = [] ∧ pending = [] ∧
        c.move length (.beforeOperator frames n pending) = .halt (.ok n)) := by
  match frames, pending with
  | frames, .number m :: rest => exact .inr (.inr (.inl ⟨m, rest, rfl, rfl⟩))
  | [], [] => exact .inr (.inr (.inr ⟨rfl, rfl, rfl⟩))
  | frame :: below, [] => exact .inr (.inl ⟨frame, below, rfl, rfl⟩)
  | [], .operator op :: rest => exact .inl ⟨op, rest, rfl, by rintro frame ⟨⟩, rfl⟩
  | frame :: below, .operator op :: rest =>
      by_cases hRank : op.rank ≤ frame.operator.rank
      · exact .inr (.inl ⟨frame, below, rfl, c.move_operator_of_le length hRank below n rest⟩)
      · have hHead : ∀ top ∈ (frame :: below).head?, top.operator.rank < op.rank := by
          rintro top ⟨⟩
          exact Nat.lt_of_not_le hRank
        exact .inl ⟨op, rest, rfl, hHead, c.move_operator_of_lt length hHead n rest⟩

/-- Reading a number puts it on top of the frames. -/
theorem run_number (frames : List Frame) (n : Float) (rest : List Token) :
    c.run length (.beforeOperand frames (.number n :: rest)) =
      c.run length (.beforeOperator frames n rest) :=
  run_of_shift (c.move_number length frames n rest)

/-- An operator in an operand slot ends the run. -/
theorem run_operator_misplaced (frames : List Frame) (op : Operator) (rest : List Token) :
    c.run length (.beforeOperand frames (.operator op :: rest)) =
      ⟨[], .error (.malformed length)⟩ :=
  run_of_halt (c.move_operator_misplaced length frames op rest)

/-- A number in an operator slot ends the run. -/
theorem run_number_misplaced (frames : List Frame) (n m : Float) (rest : List Token) :
    c.run length (.beforeOperator frames n (.number m :: rest)) =
      ⟨[], .error (.malformed length)⟩ :=
  run_of_halt (c.move_number_misplaced length frames n m rest)

/-- Before an operator goes on its stack, the frames that bind at least as tightly are reduced. -/
theorem run_operator (frames : List Frame) (n : Float) (op : Operator) (rest : List Token) :
    c.run length (.beforeOperator frames n (.operator op :: rest)) =
      c.load frames n op >>= fun loaded => c.run length (.beforeOperand loaded rest) := by
  induction frames generalizing n with
  | nil => exact run_of_shift rfl
  | cons frame below ih =>
      by_cases hRank : op.rank ≤ frame.operator.rank
      · rw [c.run_of_applying length (c.move_operator_of_le length hRank below n rest)]
        simp only [ih, load, settle, hRank, if_true, bind_assoc]
      · have hHead : ∀ top ∈ (frame :: below).head?, top.operator.rank < op.rank := by
          rintro top ⟨⟩
          exact Nat.lt_of_not_le hRank
        rw [run_of_shift (c.move_operator_of_lt length hHead n rest)]
        simp only [load, settle, hRank, if_false, pure_bind]

/-- After the last number all frames are reduced. -/
theorem run_end (frames : List Frame) (n : Float) :
    c.run length (.beforeOperator frames n []) = c.close frames n := by
  induction frames generalizing n with
  | nil => exact run_of_halt rfl
  | cons frame below ih =>
      rw [c.run_of_applying length (c.move_end length frame below n), close_cons]
      exact bind_congr ih

end Moves

end Calculator

end FlatArith
