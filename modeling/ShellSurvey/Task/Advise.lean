import ShellSurvey.Console
import ShellSurvey.Task.Report

namespace ShellSurvey

def adviceOn (path : String) : String :=
  "Rewrite POSIX script in Ruby or other safer general purpose scripting language: " ++ path

/-- The result is true if there is a POSIX script, or a path that could not be classified. -/
def adviseMigration (world : World) (exclusion : Exclusion) (roots : List String) : Report :=
  let survey := survey world exclusion {} roots
  let scripts := survey.records.filter (·.posix)
  survey.report (scripts.map fun record => say .warning (adviceOn record.path))
    (survey.anyFailed || !scripts.isEmpty)

end ShellSurvey
