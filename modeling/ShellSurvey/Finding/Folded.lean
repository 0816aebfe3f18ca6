import ShellSurvey.Finding.Basic

namespace ShellSurvey

/-- Adds a finding at the end. Findings in different files cannot be folded. -/
def appendFinding (findings : List Finding) (finding : Finding) :
    Except LocationClash (List Finding) :=
  match findings.getLast? with
  | none => .ok [finding]
  | some last =>
    if last.repeats finding then
      (last.absorb finding).map fun sum => findings.dropLast ++ [sum]
    else .ok (findings ++ [finding])

/-- Adds findings one by one, up to the first that cannot be folded. -/
def appendFindings (findings : List Finding) : List Finding → List Finding × Option LocationClash
  | [] => (findings, none)
  | finding :: rest =>
    match appendFinding findings finding with
    | .ok more => appendFindings more rest
    | .error clash => (findings, some clash)

/-- The findings of one file, folded. They share their path, so that none is left out. -/
def foldFindings (findings more : List Finding) : List Finding := (appendFindings findings more).1

end ShellSurvey
