import FlatArith.Machine

/-!
# Runs as computations

A run reports reductions and ends with a value or a failure, so runs can be put one after the other:
the later run is made only if the earlier one ends with a value, and its reductions are reported after
those of the earlier one.  This module gives runs that structure and describes the run that consists of
one application of an operator.

Forgetting the reductions of a run leaves its outcome.  `outcome_bind` and `outcome_foldlM` say that
this may be done before or after runs are put together.
-/

namespace FlatArith

namespace Run

variable {α β : Type}

instance : Monad Run where
  pure a := ⟨[], .ok a⟩
  bind first later :=
    match first.outcome with
    | .ok a => ⟨first.reductions ++ (later a).reductions, (later a).outcome⟩
    | .error failure => ⟨first.reductions, .error failure⟩

@[simp] theorem outcome_pure (a : α) : (pure a : Run α).outcome = .ok a := rfl

theorem bind_of_ok {first : Run α} {a : α} (h : first.outcome = .ok a) (later : α → Run β) :
    first >>= later = ⟨first.reductions ++ (later a).reductions, (later a).outcome⟩ := by
  show (match first.outcome with | .ok a => _ | .error failure => _) = _
  rw [h]

theorem bind_of_error {first : Run α} {failure : Failure} (h : first.outcome = .error failure)
    (later : α → Run β) : first >>= later = ⟨first.reductions, .error failure⟩ := by
  show (match first.outcome with | .ok a => _ | .error failure => _) = _
  rw [h]

instance : LawfulMonad Run := LawfulMonad.mk' Run
  (by
    intro α work
    show work >>= (fun a => pure a) = work
    cases h : work.outcome with
    | ok a =>
        rw [bind_of_ok h]
        exact Run.ext (List.append_nil _) h.symm
    | error failure =>
        rw [bind_of_error h]
        exact Run.ext rfl h.symm)
  (by
    intro α β a later
    exact bind_of_ok rfl later)
  (by
    intro α β γ first second third
    cases hFirst : first.outcome with
    | error failure => rw [bind_of_error hFirst, bind_of_error hFirst, bind_of_error rfl]
    | ok a =>
        rw [bind_of_ok hFirst, bind_of_ok hFirst]
        cases hSecond : (second a).outcome with
        | error failure => rw [bind_of_error rfl, bind_of_error hSecond]
        | ok b => rw [bind_of_ok rfl, bind_of_ok hSecond, List.append_assoc])

theorem outcome_bind_of_ok {first : Run α} {a : α} (h : first.outcome = .ok a)
    (later : α → Run β) : (first >>= later).outcome = (later a).outcome := by
  rw [bind_of_ok h]

theorem outcome_bind_of_error {first : Run α} {failure : Failure}
    (h : first.outcome = .error failure) (later : α → Run β) :
    (first >>= later).outcome = .error failure := by
  rw [bind_of_error h]

/-- The outcome of runs put together is that of their outcomes put together. -/
@[simp] theorem outcome_bind (first : Run α) (later : α → Run β) :
    (first >>= later).outcome = first.outcome >>= fun a => (later a).outcome := by
  cases h : first.outcome with
  | ok a => rw [bind_of_ok h]; rfl
  | error failure => rw [bind_of_error h]; rfl

/-- The outcome of a run along a list. -/
theorem outcome_foldlM (step : β → α → Run β) (l : List α) (start : β) :
    (l.foldlM step start).outcome = l.foldlM (fun b a => (step b a).outcome) start := by
  induction l generalizing start with
  | nil => rfl
  | cons a rest ih => simp only [List.foldlM_cons, outcome_bind, ih]

end Run

namespace Calculator

variable (c : Calculator)

/-- The run that applies one operator. -/
def perform (op : Operator) (left right : Float) : Run Float where
  reductions :=
    match c.apply op left right with
    | .ok result => [⟨op, left, right, result⟩]
    | .error _ => []
  outcome := c.apply op left right

@[simp] theorem outcome_perform (op : Operator) (left right : Float) :
    (c.perform op left right).outcome = c.apply op left right := rfl

theorem perform_bind_of_ok {op : Operator} {left right result : Float}
    (h : c.apply op left right = .ok result) (later : Float → Run Float) :
    c.perform op left right >>= later =
      ⟨⟨op, left, right, result⟩ :: (later result).reductions, (later result).outcome⟩ := by
  rw [Run.bind_of_ok (c.outcome_perform op left right |>.trans h)]
  simp only [perform, h, List.singleton_append]

theorem perform_bind_of_error {op : Operator} {left right : Float} {failure : Failure}
    (h : c.apply op left right = .error failure) (later : Float → Run Float) :
    c.perform op left right >>= later = ⟨[], .error failure⟩ := by
  rw [Run.bind_of_error (c.outcome_perform op left right |>.trans h)]
  simp only [perform, h]

end Calculator

end FlatArith
