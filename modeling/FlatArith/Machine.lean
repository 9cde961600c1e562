import FlatArith.Calculator
import FlatArith.Token

/-!
# The two-stack machine

The machine reads the tokens of an expression from left to right.  Numbers go on the stack of operands.
An operator first waits while the operator on top of its stack binds at least as tightly: each such
operator is reduced, that is, applied to the two topmost operands, which its result replaces.  Then the
operator is pushed.  At the end of the tokens the remaining operators are reduced from the top, and the
single operand that is left is the result.

The module describes the machine by single moves.

* `Machine` holds the tokens still to be read, the slot of the next one, and the two stacks.
* `Calculator.move` makes one move: it takes a token in, reduces one operator, or halts.
* `Calculator.run` makes moves until the machine halts and collects the reductions on the way.

Every move lowers `Machine.work`, so a run ends.  A list of tokens that is no expression halts the
machine with a failure; it may fail by a division before its fault is seen.
-/

namespace FlatArith

/-- The state of the machine.  The tops of the stacks are the heads of the lists. -/
structure Machine where
  slot : Slot
  pending : List Token
  operands : List Float
  operators : List Operator

/-- One application of an operator to the operands as they were on the stack, with its result. -/
structure Reduction where
  operator : Operator
  left : Float
  right : Float
  result : Float
  deriving BEq, Repr

/-- What a single move does. -/
inductive Move where
  /-- The next token goes on its stack. -/
  | shift (next : Machine)
  /-- The topmost operator is applied. -/
  | reduce (reduction : Reduction) (next : Machine)
  /-- There is nothing left to do, or no way on. -/
  | halt (outcome : Outcome)

/-- What a run leaves behind: its reductions in their order, and what it ends with. -/
@[ext]
structure Run (α : Type) where
  reductions : List Reduction
  outcome : Except Failure α

namespace Machine

/-- The machine before the first token. -/
def start (tokens : List Token) : Machine where
  slot := .operand
  pending := tokens
  operands := []
  operators := []

/-- The moves that a machine can still make, at most: two for each token to be read, one for each
operator on the stack. -/
def work (m : Machine) : Nat :=
  2 * m.pending.length + m.operators.length

/-- The machine after a number was read. -/
def pushOperand (m : Machine) (n : Float) (rest : List Token) : Machine :=
  { m with slot := .operator, pending := rest, operands := n :: m.operands }

/-- The machine after an operator was read. -/
def pushOperator (m : Machine) (op : Operator) (rest : List Token) : Machine :=
  { m with slot := .operand, pending := rest, operators := op :: m.operators }

end Machine

namespace Calculator

/-- Applies an operator that was taken from its stack, the rest of which is `below`, to the two topmost
operands.  The right operand is the topmost.  `length` is the length of the whole expression. -/
def reduceTop (c : Calculator) (length : Nat) (m : Machine) (top : Operator)
    (below : List Operator) : Move :=
  match m.operands with
  | right :: left :: rest =>
      match c.apply top left right with
      | .ok result =>
          .reduce ⟨top, left, right, result⟩
            { m with operands := result :: rest, operators := below }
      | .error failure => .halt (.error failure)
  | _ => .halt (.error (.malformed length))

/-- The move on an operator that is next to be read: reduce while the operator on top of the stack binds
at least as tightly, then take the operator in. -/
def moveOperator (c : Calculator) (length : Nat) (m : Machine) (op : Operator)
    (rest : List Token) : Move :=
  match m.operators with
  | top :: below =>
      if op.rank ≤ top.rank then c.reduceTop length m top below
      else .shift (m.pushOperator op rest)
  | [] => .shift (m.pushOperator op rest)

/-- The move after the last token: reduce while there are operators, then give the only operand. -/
def moveAtEnd (c : Calculator) (length : Nat) (m : Machine) : Move :=
  match m.operators with
  | top :: below => c.reduceTop length m top below
  | [] =>
      match m.operands with
      | [result] => .halt (.ok result)
      | _ => .halt (.error (.malformed length))

/-- One move of the machine.  A token that does not fit its slot halts it. -/
def move (c : Calculator) (length : Nat) (m : Machine) : Move :=
  match m.pending with
  | [] => c.moveAtEnd length m
  | token :: rest =>
      match m.slot, token with
      | .operand, .number n => .shift (m.pushOperand n rest)
      | .operator, .operator op => c.moveOperator length m op rest
      | _, _ => .halt (.error (.malformed length))

theorem operators_of_reduceTop {c : Calculator} {length : Nat} {m next : Machine} {top : Operator}
    {below : List Operator} {reduction : Reduction}
    (h : c.reduceTop length m top below = .reduce reduction next) :
    next.operators = below ∧ next.pending = m.pending := by
  unfold reduceTop at h
  split at h
  · split at h
    · cases h; exact ⟨rfl, rfl⟩
    · cases h
  · cases h

theorem reduceTop_ne_shift {c : Calculator} {length : Nat} {m next : Machine} {top : Operator}
    {below : List Operator} : c.reduceTop length m top below ≠ .shift next := by
  unfold reduceTop
  split
  · split <;> exact Move.noConfusion
  · exact Move.noConfusion

/-- Taking a token in lowers the work that is left. -/
theorem work_of_move_shift {c : Calculator} {length : Nat} {m next : Machine}
    (h : c.move length m = .shift next) : next.work < m.work := by
  unfold move at h
  split at h
  · unfold moveAtEnd at h
    split at h
    · exact absurd h reduceTop_ne_shift
    · split at h <;> cases h
  · next token rest hPending =>
      split at h
      · cases h
        simp only [Machine.work, Machine.pushOperand, hPending, List.length_cons]
        omega
      · unfold moveOperator at h
        split at h
        · split at h
          · exact absurd h reduceTop_ne_shift
          · cases h
            simp only [Machine.work, Machine.pushOperator, hPending, List.length_cons]
            omega
        · cases h
          simp only [Machine.work, Machine.pushOperator, hPending, List.length_cons]
          omega
      · cases h

/-- Reducing an operator lowers the work that is left. -/
theorem work_of_move_reduce {c : Calculator} {length : Nat} {m next : Machine}
    {reduction : Reduction} (h : c.move length m = .reduce reduction next) :
    next.work < m.work := by
  -- Only `reduceTop` reduces, and it takes exactly the top operator off.
  have taken : ∀ top below, m.operators = top :: below →
      c.reduceTop length m top below = .reduce reduction next → next.work < m.work := by
    intro top below hOperators hReduce
    obtain ⟨hBelow, hPending⟩ := operators_of_reduceTop hReduce
    simp only [Machine.work, hBelow, hPending, hOperators, List.length_cons]
    omega
  unfold move at h
  split at h
  · unfold moveAtEnd at h
    split at h
    · next hOperators => exact taken _ _ hOperators h
    · split at h <;> cases h
  · split at h
    · cases h
    · unfold moveOperator at h
      split at h
      · next hOperators =>
          split at h
          · exact taken _ _ hOperators h
          · cases h
      · cases h
    · cases h

/-- Makes moves until the machine halts. -/
def run (c : Calculator) (length : Nat) (m : Machine) : Run Float :=
  match _h : c.move length m with
  | .shift next => c.run length next
  | .reduce reduction next =>
      let rest := c.run length next
      { rest with reductions := reduction :: rest.reductions }
  | .halt outcome => ⟨[], outcome⟩
termination_by m.work
decreasing_by
  · exact work_of_move_shift _h
  · exact work_of_move_reduce _h

theorem run_of_shift {c : Calculator} {length : Nat} {m next : Machine}
    (h : c.move length m = .shift next) : c.run length m = c.run length next := by
  rw [run]
  split <;> simp_all

theorem run_of_reduce {c : Calculator} {length : Nat} {m next : Machine} {reduction : Reduction}
    (h : c.move length m = .reduce reduction next) :
    c.run length m =
      ⟨reduction :: (c.run length next).reductions, (c.run length next).outcome⟩ := by
  rw [run]
  split <;> simp_all

theorem run_of_halt {c : Calculator} {length : Nat} {m : Machine} {outcome : Outcome}
    (h : c.move length m = .halt outcome) : c.run length m = ⟨[], outcome⟩ := by
  rw [run]
  split <;> simp_all

/-- The run on a list of tokens. -/
def runTokens (c : Calculator) (tokens : List Token) : Run Float :=
  c.run tokens.length (.start tokens)

/-- The value of a list of tokens. -/
def evaluate (c : Calculator) (tokens : List Token) : Outcome :=
  (c.runTokens tokens).outcome

end Calculator

end FlatArith
