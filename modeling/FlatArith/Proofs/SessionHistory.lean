import FlatArith.Proofs.SignedZeros
import FlatArith.Session
import Mathlib.Data.List.Induction

/-!
# What a session has become

A session is decided by its history: the settings by the last step that changes the settings, and the
calculator by the last step that changes the calculator (`Follows`).  A calculator that is built takes the
limit that the settings have at that moment, whatever happens to the settings afterwards.

Both laws are one argument.  A part of the session that only some steps change is what the last of these
steps made it (`part_of_lastChange`), or what it was at the start if there was none (`cases_part`).  So a
session in which nothing is built answers like the operations that need no calculator
(`answer_of_not_built`).
-/

namespace FlatArith.Session

/-- A step that gives the settings a limit or takes them back to the standard ones. -/
def Step.ChangesSettings : Step → Prop
  | .resetSettings | .setLimit _ => True
  | _ => False

/-- A step that replaces the calculator. -/
def Step.ChangesCalculator : Step → Prop
  | .build | .resetCalculator => True
  | _ => False

/-- A step that asks for something. -/
def Step.IsQuestion : Step → Prop
  | .startLogging | .compare | .calculate _ | .evaluate _ | .apply _ _ _ => True
  | _ => False

/-- The session that a history leads to from the start. -/
def reached (history : List Step) : Session :=
  history.foldl after {}

section LastChanges

variable {changes : Step → Prop} {history : List Step}

/-- The step stands behind the earlier steps, and is the last one in the history that changes something. -/
def LastChange (changes : Step → Prop) (history earlier : List Step) (step : Step) : Prop :=
  changes step ∧ ∃ later, history = earlier ++ step :: later ∧ ∀ other ∈ later, ¬ changes other

/-- A history in which something changes has a last change. -/
theorem unchanged_or_exists_lastChange (changes : Step → Prop) (history : List Step) :
    (∀ step ∈ history, ¬ changes step) ∨ ∃ earlier step, LastChange changes history earlier step := by
  induction history using List.reverseRecOn with
  | nil => exact .inl fun _ => nofun
  | append_singleton history last ih =>
      by_cases hLast : changes last
      · exact .inr ⟨history, last, hLast, [], rfl, fun _ => nofun⟩
      · have hEnd : ∀ other ∈ [last], ¬ changes other := List.forall_mem_singleton.2 hLast
        rcases ih with hNone | ⟨earlier, step, hStep, later, rfl, hLater⟩
        · exact .inl (List.forall_mem_append.2 ⟨hNone, hEnd⟩)
        · exact .inr ⟨earlier, step, hStep, later ++ [last], by simp,
            List.forall_mem_append.2 ⟨hLater, hEnd⟩⟩

variable {α : Type} {part : Session → α}
  (keeps : ∀ session step, ¬ changes step → part (session.after step) = part session)

include keeps

/-- Steps that do not change a part leave it as it is. -/
theorem part_foldl_of_unchanged (session : Session) (h : ∀ step ∈ history, ¬ changes step) :
    part (history.foldl after session) = part session := by
  induction history generalizing session with
  | nil => rfl
  | cons step rest ih =>
      rw [List.foldl_cons, ih _ fun other hOther => h other (List.mem_cons_of_mem _ hOther)]
      exact keeps session step (h step List.mem_cons_self)

/-- A part is what the last change made it. -/
theorem part_of_lastChange {earlier : List Step} {step : Step}
    (h : LastChange changes history earlier step) :
    part (reached history) = part ((reached earlier).after step) := by
  obtain ⟨-, later, rfl, hLater⟩ := h
  rw [reached, List.foldl_append, List.foldl_cons]
  exact part_foldl_of_unchanged keeps _ hLater

/-- A part is what it was at the start, or there is a last change. -/
theorem cases_part (history : List Step) :
    part (reached history) = part {} ∨ ∃ earlier step, LastChange changes history earlier step ∧
      part (reached history) = part ((reached earlier).after step) := by
  rcases unchanged_or_exists_lastChange changes history with hNone | ⟨earlier, step, hLast⟩
  · exact .inl (part_foldl_of_unchanged keeps {} hNone)
  · exact .inr ⟨earlier, step, hLast, part_of_lastChange keeps hLast⟩

end LastChanges

section Steps

variable (session : Session) {step : Step}

theorem settings_after_of_not (h : ¬ step.ChangesSettings) :
    (session.after step).settings = session.settings := by
  cases step with
  | resetSettings | setLimit => exact absurd trivial h
  | _ => rfl

theorem calculator_after_of_not (h : ¬ step.ChangesCalculator) :
    (session.after step).calculator = session.calculator := by
  cases step with
  | build | resetCalculator => exact absurd trivial h
  | _ => rfl

/-- A question leaves the session as it is, also when it is answered by a failure. -/
theorem after_of_isQuestion (h : step.IsQuestion) : session.after step = session := by
  cases step with
  | resetSettings | setLimit | build | resetCalculator => cases h
  | _ => rfl

end Steps

/-- Unless a calculator is built, the calculator of a session is the standard one. -/
theorem calculator_of_not_built {history : List Step} (h : .build ∉ history) :
    (reached history).calculator = .standard := by
  rcases cases_part calculator_after_of_not history with hStart | ⟨earlier, step, hLast, hCalculator⟩
  · exact hStart
  · obtain ⟨hChanges, later, rfl, -⟩ := hLast
    rw [hCalculator]
    cases step with
    | build => exact absurd (List.mem_append_right earlier List.mem_cons_self) h
    | resetCalculator => rfl
    | _ => cases hChanges

/-- Such a session answers as the operations do that are called without a calculator, whatever has
become of its settings. -/
theorem answer_of_not_built {history : List Step} (h : .build ∉ history) :
    (∀ arguments, (reached history).answer (.calculate arguments) =
        .outcome (FlatArith.calculate arguments)) ∧
      (∀ tokens, (reached history).answer (.evaluate tokens) =
        .outcome (FlatArith.evaluate tokens)) ∧
      ∀ op left right, (reached history).answer (.apply op left right) =
        .outcome (applyOperator op left right) := by
  simp only [answer, calculator_of_not_built h]
  exact ⟨fun _ => rfl, fun _ => rfl, fun _ _ _ => rfl⟩

/-- What the history says about the session.  Each part has the limit that its last change gave it, or
else the standard one. -/
structure Follows (history : List Step) (session : Session) : Prop where
  limit_of_set : ∀ earlier limit,
    LastChange Step.ChangesSettings history earlier (.setLimit limit) → session.settings.limit = limit
  limit_of_unset :
    (∀ earlier limit, ¬ LastChange Step.ChangesSettings history earlier (.setLimit limit)) →
      session.settings.limit = 1000
  limit_of_built : ∀ earlier, LastChange Step.ChangesCalculator history earlier .build →
    session.calculator.limit = (reached earlier).settings.limit
  limit_of_unbuilt : (∀ earlier, ¬ LastChange Step.ChangesCalculator history earlier .build) →
    session.calculator.limit = 1000

theorem follows_reached (history : List Step) : Follows history (reached history) where
  limit_of_set earlier limit hLast := by
    rw [part_of_lastChange settings_after_of_not hLast]
    rfl
  limit_of_unset hUnset := by
    rcases cases_part settings_after_of_not history with hStart | ⟨earlier, step, hLast, hSettings⟩
    · rw [hStart]
      rfl
    · rw [hSettings]
      cases step with
      | resetSettings => rfl
      | setLimit limit => exact absurd hLast (hUnset earlier limit)
      | _ => cases hLast.1
  limit_of_built earlier hLast := by
    rw [part_of_lastChange calculator_after_of_not hLast]
    rfl
  limit_of_unbuilt hUnbuilt := by
    rcases cases_part calculator_after_of_not history with hStart | ⟨earlier, step, hLast, hCalculator⟩
    · rw [hStart]
      rfl
    · rw [hCalculator]
      cases step with
      | build => exact absurd hLast (hUnbuilt earlier)
      | resetCalculator => rfl
      | _ => cases hLast.1

/-- The entry of a step holds its answer after the earlier steps, and the session with this step. -/
theorem getElem?_transcript (session : Session) (history : List Step) (step : Step)
    (later : List Step) :
    (session.transcript (history ++ step :: later))[history.length]? =
      some ((history.foldl after session).answer step, (history ++ [step]).foldl after session) := by
  induction history generalizing session with
  | nil => rfl
  | cons first rest ih => exact ih (session.after first)

/-- The entry of a step in the transcript of a session says what the steps up to it have made of the
session.  Only the last changes count, and questions change nothing.  They are answered as a calculator
with the present limit answers that was made on its own, and a comparison compares this limit with the
standard one, with that of the settings, and with itself. -/
theorem transcript_history (history : List Step) (step : Step) (later : List Step) :
    (({} : Session).transcript (history ++ step :: later))[history.length]? =
        some ((reached history).answer step, reached (history ++ [step])) ∧
      Follows (history ++ [step]) (reached (history ++ [step])) ∧
      (¬ step.ChangesCalculator →
        (reached (history ++ [step])).calculator = (reached history).calculator) ∧
      (step.IsQuestion → reached (history ++ [step]) = reached history) ∧
      ∀ limit, (reached history).calculator.limit = limit →
        (∀ arguments, step = .calculate arguments →
            (reached history).answer step = .outcome (Calculator.calculate ⟨limit⟩ arguments)) ∧
          (∀ tokens, step = .evaluate tokens →
            (reached history).answer step = .outcome (Calculator.evaluate ⟨limit⟩ tokens)) ∧
          (∀ op left right, step = .apply op left right →
            (reached history).answer step = .outcome (Calculator.apply ⟨limit⟩ op left right)) ∧
          (step = .compare →
            (reached history).answer step =
              .comparison (limit == 1000) (limit == (reached history).settings.limit)
                (limit == limit)) ∧
          ((limit == limit) = false ↔ limit.isNaN = true) := by
  have hStep : reached (history ++ [step]) = (reached history).after step := by
    rw [reached, List.foldl_append]
    rfl
  refine ⟨getElem?_transcript {} history step later, follows_reached _, fun hKept => ?_,
    fun hQuestion => ?_, ?_⟩
  · rw [hStep, calculator_after_of_not _ hKept]
  · rw [hStep, after_of_isQuestion _ hQuestion]
  · rintro _ rfl
    refine ⟨?_, ?_, ?_, ?_, Alike.beq_self_eq_false_iff⟩
    · rintro arguments rfl
      rfl
    · rintro tokens rfl
      rfl
    · rintro op left right rfl
      rfl
    · rintro rfl
      rfl

/-- The limit that was set after the build is that of the settings only. -/
theorem transcript_history_built_before :
    let history : List Step := [.setLimit 2, .build, .calculate [], .setLimit 3]
    let step : Step := .apply .plus 5 1
    (reached (history ++ [step])).calculator.limit = 2 ∧
      (reached (history ++ [step])).settings.limit = 3 ∧
      reached (history ++ [step]) = reached history ∧
      (reached history).answer step = .outcome (Calculator.apply ⟨2⟩ .plus 5 1) := by
  intro history step
  obtain ⟨-, hFollows, -, hQuestion, hAnswers⟩ := transcript_history history step []
  have hBuilt : LastChange Step.ChangesCalculator (history ++ [step]) [.setLimit 2] .build :=
    ⟨trivial, [.calculate [], .setLimit 3, step], rfl, by simp [step, Step.ChangesCalculator]⟩
  have hSet : LastChange Step.ChangesSettings (history ++ [step])
      [.setLimit 2, .build, .calculate []] (.setLimit 3) :=
    ⟨trivial, [step], rfl, by simp [step, Step.ChangesSettings]⟩
  exact ⟨hFollows.limit_of_built _ hBuilt, hFollows.limit_of_set _ _ hSet, hQuestion trivial,
    (hAnswers 2 rfl).2.2.1 .plus 5 1 rfl⟩

end FlatArith.Session
