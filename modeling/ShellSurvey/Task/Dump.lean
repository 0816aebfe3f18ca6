import ShellSurvey.Record.Loose
import ShellSurvey.Task.Report

namespace ShellSurvey

/-- The records that are written: those of directories are not. -/
def Survey.written (survey : Survey) : List Record :=
  survey.records.filter fun record => !record.directory

/-- The result is true if every path could be classified. -/
def dumpRecords (world : World) (exclusion : Exclusion) (probes : Probes) (layout : Layout)
    (roots : List String) : Report :=
  let survey := survey world exclusion probes roots
  survey.report (survey.written.map fun record => record.jsonText layout ++ "\n")
    (!survey.anyFailed)

end ShellSurvey
