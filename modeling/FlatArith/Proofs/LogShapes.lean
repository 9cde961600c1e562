import FlatArith.Proofs.CalculationFailures
import FlatArith.Proofs.Moves

/-!
# The shapes of a log

Whatever happens in a span, its log is bracketed by the entries of the span.  The log of an evaluation
holds nothing else but the reductions of the run, each of which is an application with its result.  The
log of a calculation has one of three shapes, and its outcome decides which (`CalculationLog`).  How many
reductions it shows is decided by the outcome, too: one for every operator, or fewer.

At a coarser level the log is what a filter leaves of the whole log (`logAt_debug`, `logAt_of_lt`).
-/

namespace FlatArith

/-- The log of work in a span that logs the inner entries. -/
def bracketed (span : Span) (length : Nat) (inner : List LogEntry) : List LogEntry :=
  .made span length :: .entered span :: (inner ++ [.exited span])

section Levels

/-- The entry belongs to the span of an evaluation or was made inside of it. -/
def LogEntry.ofEvaluation : LogEntry → Bool
  | made span _ | entered span | exited span => span == .evaluation
  | reduced _ => true
  | rejected _ | evaluated _ => false

theorem LogEntry.level_eq (entry : LogEntry) :
    entry.level = if entry.ofEvaluation then .trace else .debug := by
  cases entry with
  | made span | entered span | exited span => cases span <;> rfl
  | reduced | rejected | evaluated => rfl

theorem Logged.logAt_debug (work : Logged) :
    work.logAt .debug = (work.logAt .trace).filter fun entry => !entry.ofEvaluation := by
  rw [logAt_trace]
  refine List.filter_congr fun entry _ => ?_
  rw [entry.level_eq]
  cases entry.ofEvaluation <;> rfl

/-- No entry is coarser than those for debugging. -/
theorem Logged.logAt_of_lt (work : Logged) {level : Level}
    (h : level.fineness < Level.debug.fineness) : work.logAt level = [] := by
  refine List.filter_eq_nil_iff.2 fun entry _ hShown => ?_
  have hFine : Level.debug.fineness ≤ entry.level.fineness := by
    rw [entry.level_eq]
    cases entry.ofEvaluation <;> decide
  exact Nat.not_le.2 h (hFine.trans (of_decide_eq_true hShown))

end Levels

section Counts

theorem Chain.operatorCount_linkTokens (links : List (Operator × Float)) :
    Token.operatorCount (linkTokens links) = links.length := by
  induction links with
  | nil => rfl
  | cons link rest ih => rw [linkTokens, Token.operatorCount, Token.operatorCount, ih, List.length_cons]

/-- Of the tokens of a well-formed list every second one is an operator. -/
theorem Token.operatorCount_of_wellFormed {tokens : List Token} (h : WellFormed tokens) :
    operatorCount tokens = (tokens.length - 1) / 2 := by
  obtain ⟨chain, rfl⟩ := Chain.wellFormed_iff_exists_tokens.1 h
  have hCount : operatorCount chain.tokens = chain.tail.length :=
    Chain.operatorCount_linkTokens chain.tail
  rw [hCount, Chain.length_tokens]
  omega

end Counts

namespace Calculator

variable (c : Calculator)

/-- Every reduction is an application under the calculator, with its result. -/
def Applied (reductions : List Reduction) : Prop :=
  ∀ reduction ∈ reductions,
    c.apply reduction.operator reduction.left reduction.right = .ok reduction.result

theorem applied_reductions (tokens : List Token) : c.Applied (c.runTokens tokens).reductions :=
  fun _ hMem => apply_of_mem_reductions hMem

/-- The log of a calculation with its outcome.  `failed` and `succeeded` are the calculations whose
arguments are valid. -/
inductive CalculationLog (arguments : List Argument) : List LogEntry → Outcome → Prop
  | rejected {failure : Failure} (invalid : validate arguments = .error failure) :
      CalculationLog arguments
        (bracketed .calculation arguments.length [.rejected failure]) (.error failure)
  | failed {tokens : List Token} {reductions : List Reduction} {failure : Failure}
      (valid : validate arguments = .ok tokens) (applied : c.Applied reductions)
      (fewer : reductions.length < (arguments.length - 1) / 2) :
      CalculationLog arguments
        (bracketed .calculation arguments.length
          (bracketed .evaluation arguments.length (reductions.map .reduced)))
        (.error failure)
  | succeeded {tokens : List Token} {reductions : List Reduction} {result : Float}
      (valid : validate arguments = .ok tokens) (applied : c.Applied reductions)
      (all : reductions.length = (arguments.length - 1) / 2) :
      CalculationLog arguments
        (bracketed .calculation arguments.length
          (bracketed .evaluation arguments.length (reductions.map .reduced) ++ [.evaluated result]))
        (.ok result)

section Equations

variable {arguments : List Argument} {tokens : List Token} {failure : Failure} {result : Float}

theorem log_evaluateLogged (tokens : List Token) :
    (c.evaluateLogged tokens).log =
      bracketed .evaluation tokens.length ((c.runTokens tokens).reductions.map .reduced) :=
  rfl

theorem calculateLogged_of_invalid (h : validate arguments = .error failure) :
    c.calculateLogged arguments =
      ⟨bracketed .calculation arguments.length [.rejected failure], .error failure⟩ := by
  simp only [calculateLogged, h]
  rfl

theorem calculateLogged_of_error (hValid : validate arguments = .ok tokens)
    (h : c.evaluate tokens = .error failure) :
    c.calculateLogged arguments =
      ⟨bracketed .calculation arguments.length (c.evaluateLogged tokens).log, .error failure⟩ := by
  simp only [calculateLogged, hValid, outcome_evaluateLogged, h]
  rw [← h]
  rfl

theorem calculateLogged_of_ok (hValid : validate arguments = .ok tokens)
    (h : c.evaluate tokens = .ok result) :
    c.calculateLogged arguments =
      ⟨bracketed .calculation arguments.length ((c.evaluateLogged tokens).log ++ [.evaluated result]),
        .ok result⟩ := by
  simp only [calculateLogged, hValid, outcome_evaluateLogged, h]
  rw [← h]
  rfl

end Equations

/-- The log of a calculation has one of the three shapes. -/
theorem calculationLog_calculateLogged (arguments : List Argument) :
    c.CalculationLog arguments (c.calculateLogged arguments).log
      (c.calculateLogged arguments).outcome := by
  cases hValid : validate arguments with
  | error failure =>
      rw [c.calculateLogged_of_invalid hValid]
      exact .rejected hValid
  | ok tokens =>
      obtain ⟨hArguments, hTokens⟩ := tokens_of_validate hValid
      have hLength : tokens.length = arguments.length := by
        rw [hArguments, List.length_map]
      have hOperators : (Machine.start tokens).operatorsLeft = (arguments.length - 1) / 2 := by
        rw [← hLength, ← Token.operatorCount_of_wellFormed hTokens]
        exact Nat.zero_add _
      have hApplied := c.applied_reductions tokens
      cases hOutcome : c.evaluate tokens with
      | error failure =>
          obtain ⟨-, rfl⟩ := (c.calculate_eq_error_iff_of_ok hValid failure).1
            ((c.calculate_of_ok hValid).trans hOutcome)
          have hFewer := length_reductions_of_error hOutcome Failure.noConfusion
          rw [c.calculateLogged_of_error hValid hOutcome, c.log_evaluateLogged, hLength]
          exact .failed hValid hApplied (hOperators ▸ hFewer)
      | ok result =>
          have hAll := length_reductions_of_ok hOutcome
          rw [c.calculateLogged_of_ok hValid hOutcome, c.log_evaluateLogged, hLength]
          exact .succeeded hValid hApplied (hAll.trans hOperators)

/-- The log of a calculation has the shape that goes with its outcome, and a rejection shows the text of
its failure.  The log of an evaluation, of tokens that are well formed or not, holds applications only.
At the level for debugging a log is left without the entries of the evaluation, and at any coarser one
empty; the outcome is that of the work without a log. -/
theorem log_shapes (c : Calculator) :
    (∀ arguments,
      c.CalculationLog arguments (c.calculateLogged arguments).log
          (c.calculateLogged arguments).outcome ∧
        (c.calculateLogged arguments).outcome = c.calculate arguments) ∧
      (∀ arguments failure, validate arguments = .error failure →
        ∃ entry, (c.calculateLogged arguments).log =
            bracketed .calculation arguments.length [entry] ∧
          entry.level = .debug ∧
          entry.fields = [("message", .text "rejected input"), ("err", .text failure.message)]) ∧
      (∀ tokens, ∃ reductions, c.Applied reductions ∧
        (c.evaluateLogged tokens).log =
          bracketed .evaluation tokens.length (reductions.map .reduced) ∧
        (c.evaluateLogged tokens).outcome = c.evaluate tokens) ∧
      ∀ work : Logged,
        work.logAt .trace = work.log ∧
          work.logAt .debug = (work.logAt .trace).filter (fun entry => !entry.ofEvaluation) ∧
          work.logAt .info = [] ∧ work.logAt .warn = [] ∧ work.logAt .error = [] := by
  refine ⟨fun arguments => ?_, fun arguments failure hInvalid => ?_, fun tokens => ?_,
    fun work => ?_⟩
  · exact ⟨c.calculationLog_calculateLogged arguments, c.outcome_calculateLogged arguments⟩
  · rw [c.calculateLogged_of_invalid hInvalid]
    exact ⟨_, rfl, rfl, rfl⟩
  · exact ⟨_, c.applied_reductions tokens, c.log_evaluateLogged tokens,
      c.outcome_evaluateLogged tokens⟩
  · exact ⟨work.logAt_trace, work.logAt_debug, work.logAt_of_lt (by decide),
      work.logAt_of_lt (by decide), work.logAt_of_lt (by decide)⟩

/-- A percent sign is no operator, and the log shows it between quotes. -/
theorem log_shapes_rejected :
    validate [.number 1, .text "%", .number 2] = .error (.notOperator 1 "string \"%\"") ∧
      ∃ entry, (standard.calculateLogged [.number 1, .text "%", .number 2]).log =
          [.made .calculation 3, .entered .calculation, entry, .exited .calculation] ∧
        entry.level = .debug ∧
        entry.fields = [("message", .text "rejected input"),
          ("err", .text "invalid operator at position 1: string \"%\"")] := by
  have hFound : Failure.badOperator 1 (.text "%") = .notOperator 1 "string \"%\"" := by
    decide +kernel
  have hInvalid : validate [.number 1, .text "%", .number 2] =
      .error (.badOperator 1 (.text "%")) :=
    rfl
  rw [hFound] at hInvalid
  exact ⟨hInvalid, (log_shapes standard).2.1 _ _ hInvalid⟩

end Calculator

end FlatArith
