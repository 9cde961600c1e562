import FlatArith.Machine

/-!
# The log of a calculation

What a calculation reports is a list of entries in the order in which they happened.  A span brackets a
part of the work: it is made and entered before that part and left after it, however the part ends.
Every entry has a level, and a log is shown at a level by leaving out the entries that are finer.  How
spans bracket the work and how levels filter the entries is not decided by the calculator but by the
tracing library that takes the entries; both are as that library documents them.

What a reader of the log sees of an entry are names and fields; `Span.name`, `Level.name` and
`LogEntry.fields` hold them.
-/

namespace FlatArith

/-- How fine an entry is, from the coarsest level to the finest. -/
inductive Level where
  | error
  | warn
  | info
  | debug
  | trace
  deriving DecidableEq, Repr

/-- The place of a level among all levels, the coarsest first. -/
def Level.fineness : Level → Nat
  | error => 0
  | warn => 1
  | info => 2
  | debug => 3
  | trace => 4

/-- How a level is shown. -/
def Level.name : Level → String
  | error => "ERROR"
  | warn => "WARN"
  | info => "INFO"
  | debug => "DEBUG"
  | trace => "TRACE"

/-- A bracketed part of the work. -/
inductive Span where
  /-- The whole calculation, from the arguments to the number. -/
  | calculation
  /-- The evaluation of the tokens. -/
  | evaluation
  deriving DecidableEq, Repr

/-- The level of a span and of its own entries. -/
def Span.level : Span → Level
  | calculation => .debug
  | evaluation => .trace

/-- How a span is shown. -/
def Span.name : Span → String
  | calculation => "calc"
  | evaluation => "evaluate"

/-- What a field of an entry holds. -/
inductive FieldValue where
  | count (n : Nat)
  | number (n : Float)
  | text (s : String)

/-- One entry of a log. -/
inductive LogEntry where
  /-- A span is made for a list of the given length. -/
  | made (span : Span) (length : Nat)
  /-- The work of a span begins. -/
  | entered (span : Span)
  /-- The work of a span has ended. -/
  | exited (span : Span)
  /-- An operator was applied with success. -/
  | reduced (reduction : Reduction)
  /-- The arguments were found to be no expression. -/
  | rejected (failure : Failure)
  /-- The calculation has a result. -/
  | evaluated (result : Float)

namespace LogEntry

/-- The level of an entry. -/
def level : LogEntry → Level
  | made span _ => span.level
  | entered span => span.level
  | exited span => span.level
  | reduced _ => .trace
  | rejected _ => .debug
  | evaluated _ => .debug

/-- The named fields of an entry, in the order in which they are shown. -/
def fields : LogEntry → List (String × FieldValue)
  | made _ length => [("len", .count length)]
  | entered _ | exited _ => []
  | reduced reduction =>
      [("message", .text "reduce"), ("op", .text reduction.operator.symbol),
        ("left", .number reduction.left), ("right", .number reduction.right),
        ("result", .number reduction.result)]
  | rejected failure => [("message", .text "rejected input"), ("err", .text failure.message)]
  | evaluated result => [("message", .text "evaluated"), ("result", .number result)]

/-- The reduction that an entry reports. -/
def reduction? : LogEntry → Option Reduction
  | reduced reduction => some reduction
  | _ => none

end LogEntry

/-- What a logged piece of work leaves behind: its whole log, and its outcome. -/
structure Logged where
  log : List LogEntry
  outcome : Outcome

namespace Logged

/-- A piece of work done inside a span.  The span is made and entered before the work and is left when
the work ends, with a value or with a failure: the documented behaviour of the tracing library for an
instrumented function. -/
def within (span : Span) (length : Nat) (work : Logged) : Logged :=
  { work with log := .made span length :: .entered span :: (work.log ++ [.exited span]) }

/-- The log at a level: the entries that are no finer.  A span that is finer is left out with all that
is said of it, but not the entries inside it.  This is the documented behaviour of the tracing library
when the level is the most verbose one that is let through. -/
def logAt (level : Level) (work : Logged) : List LogEntry :=
  work.log.filter fun entry => entry.level.fineness ≤ level.fineness

/-- The reductions that the log reports at a level, in their order. -/
def reductionsAt (level : Level) (work : Logged) : List Reduction :=
  (work.logAt level).filterMap LogEntry.reduction?

@[simp] theorem outcome_within (span : Span) (length : Nat) (work : Logged) :
    (work.within span length).outcome = work.outcome := rfl

@[simp] theorem logAt_trace (work : Logged) : work.logAt .trace = work.log := by
  refine List.filter_eq_self.2 fun entry _ => ?_
  cases h : entry.level <;> simp [Level.fineness]

end Logged

end FlatArith
