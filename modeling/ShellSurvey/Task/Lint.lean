import ShellSurvey.Console
import ShellSurvey.Linter
import ShellSurvey.Task.Report

namespace ShellSurvey

/-- A report under way, with the disk as the tools left it. -/
structure LintProgress where
  out : String
  log : List LogLine
  commands : List (List String)
  found : Bool
  disk : Disk
  broken : Option Interruption

def LintProgress.start (disk : Disk) : LintProgress := ⟨"", [], [], false, disk, none⟩

/-- All that a finding shows on the terminal. -/
def Finding.shown (finding : Finding) : String := (finding.report {}).toOption.getD ""

/-- One observation: a failure counts as found, and a record is linted. -/
def LintProgress.take (world : World) (options : LintOptions) (progress : LintProgress)
    (observation : Observation) : LintProgress :=
  if progress.broken.isSome then progress
  else if observation.failed then
    { progress with log := progress.log ++ observation.notes, found := true }
  else
    let lint := lintRecord { world with disk := progress.disk } options observation.record
    let reported := if lint.broken.isSome then [] else lint.findings
    { out := progress.out ++ String.join (reported.map Finding.shown)
      log := progress.log ++ observation.notes ++ lint.log
      commands := progress.commands ++ lint.commands
      found := progress.found || !reported.isEmpty
      disk := lint.disk
      broken := lint.broken }

/-- One root, surveyed on the disk as it is by then. -/
def LintProgress.takeRoot (world : World) (exclusion : Exclusion) (options : LintOptions)
    (progress : LintProgress) (root : String) : LintProgress :=
  if progress.broken.isSome then progress
  else
    let survey := surveyRoot { world with disk := progress.disk } exclusion options.probes root
    let progress := survey.observations.foldl (.take world options) progress
    { progress with broken := progress.broken.or (survey.broken.map .refused) }

/-- Everything that linting some roots does. -/
def lintProgress (world : World) (exclusion : Exclusion) (options : LintOptions)
    (roots : List String) : LintProgress :=
  roots.foldl (.takeRoot world exclusion options) (.start world.disk)

def LintProgress.report (progress : LintProgress) : Report where
  out := progress.out
  log := progress.log
  commands := progress.commands
  result :=
    match progress.broken with
    | some cause => .error cause
    | none => .ok progress.found

/-- The result is true if there is a finding, or a path that could not be classified. -/
def lintScripts (world : World) (exclusion : Exclusion) (options : LintOptions)
    (roots : List String) : Report :=
  (lintProgress world exclusion options roots).report

end ShellSurvey
