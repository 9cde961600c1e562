import FlatArith.Calculation

/-!
# Sessions

A session holds the settings of the next calculator and the calculator in use.  Building copies the
settings into the calculator; later changes of the settings do not reach it.  All other steps ask the
calculator something and change nothing, whether they succeed or fail.
-/

namespace FlatArith

/-- The settings that the next calculator is built from. -/
structure Settings where
  limit : Float := standardLimit

namespace Settings

/-- Settings with another saturation limit. -/
def withLimit (settings : Settings) (limit : Float) : Settings :=
  { settings with limit := limit }

/-- The calculator with these settings. -/
def build (settings : Settings) : Calculator where
  limit := settings.limit

end Settings

/-- What a session holds. -/
structure Session where
  settings : Settings := {}
  calculator : Calculator := .standard

namespace Session

/-- A step of a session. -/
inductive Step where
  /-- Start again with the standard settings.  A new builder and the default builder both begin with
  them, and this one step stands for either. -/
  | resetSettings
  /-- Set the saturation limit of the settings. -/
  | setLimit (limit : Float)
  /-- Replace the calculator by one with the present settings. -/
  | build
  /-- Replace the calculator by the standard one.  A new calculator and the default calculator are both
  this one, and the step stands for either. -/
  | resetCalculator
  /-- Ask for the log to be written out.  No writer is installed unless the surroundings name one. -/
  | startLogging
  /-- Compare the calculator. -/
  | compare
  /-- Calculate with the calculator. -/
  | calculate (arguments : List Argument)
  /-- Evaluate tokens with the calculator. -/
  | evaluate (tokens : List Token)
  /-- Apply one operator with the calculator. -/
  | apply (op : Operator) (left right : Float)

/-- What a step answers. -/
inductive Answer where
  | nothing
  /-- Whether the calculator equals the standard one, the one that the settings would build, and
  itself. -/
  | comparison (standard built itself : Bool)
  | outcome (outcome : Outcome)

/-- The session after a step. -/
def after (session : Session) : Step → Session
  | .resetSettings => { session with settings := {} }
  | .setLimit limit => { session with settings := session.settings.withLimit limit }
  | .build => { session with calculator := session.settings.build }
  | .resetCalculator => { session with calculator := .standard }
  | _ => session

/-- The answer to a step. -/
def answer (session : Session) : Step → Answer
  | .compare =>
      .comparison (session.calculator == .standard) (session.calculator == session.settings.build)
        (session.calculator == session.calculator)
  | .calculate arguments => .outcome (session.calculator.calculate arguments)
  | .evaluate tokens => .outcome (session.calculator.evaluate tokens)
  | .apply op left right => .outcome (session.calculator.apply op left right)
  | _ => .nothing

/-- The answers to a list of steps, each with the session that the step leaves. -/
def transcript (session : Session) : List Step → List (Answer × Session)
  | [] => []
  | step :: rest =>
      (session.answer step, session.after step) :: (session.after step).transcript rest

end Session

end FlatArith
