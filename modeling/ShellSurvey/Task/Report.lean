import ShellSurvey.Survey

namespace ShellSurvey

structure Report where
  out : String
  log : List LogLine
  commands : List (List String)
  result : Except Interruption Bool
  deriving Repr

/-- The result of a task, unless the survey was broken off. -/
def Survey.settle (survey : Survey) (result : Bool) : Except Interruption Bool :=
  match survey.broken with
  | some refusal => .error (.refused refusal)
  | none => .ok result

/-- The report of a task that only writes out what a survey found. -/
def Survey.report (survey : Survey) (pieces : List String) (result : Bool) : Report where
  out := String.join pieces
  log := survey.log
  commands := []
  result := survey.settle result

end ShellSurvey
