import ShellSurvey.CommandLine.Run

namespace ShellSurvey

/-- What performing a command comes to. -/
abbrev Performed := Except Breakdown (Report × Bool × Disk)

def Performed.out : Performed → String
  | .error _ => ""
  | .ok (report, _, _) => report.out

def Performed.ending : Performed → Ending
  | .error breakdown => .broke breakdown
  | .ok (report, success, _) =>
    match report.result with
    | .error cause => .broke (.interrupted cause)
    | .ok result => .returned (exitCode result success)

section

variable [PatternLibrary] {world : World} {invocation : Invocation} {command : Command} {arguments : Arguments}

theorem run_performed (call : invocation.call = some (command, arguments)) {exclusion : Exclusion}
    (excludes : exclusionFor world.disk arguments.settings = .ok exclusion) :
    let performed := command.perform world exclusion arguments.settings arguments.roots
    (invocation.run world).out = Performed.out performed ∧
      (invocation.run world).ending = Performed.ending performed := by
  intro performed
  have bound : (do
      let exclusion ← exclusionFor world.disk arguments.settings
      command.perform world exclusion arguments.settings arguments.roots) = performed := by
    rw [excludes]
    rfl
  unfold Invocation.run
  rw [call]
  dsimp only
  rw [bound]
  clear_value performed
  cases performed with
  | error breakdown => exact ⟨rfl, rfl⟩
  | ok result => exact ⟨rfl, rfl⟩

/-- Without an exclusion nothing is performed. -/
theorem run_unexcluded (call : invocation.call = some (command, arguments)) {breakdown : Breakdown}
    (unexcluded : exclusionFor world.disk arguments.settings = .error breakdown) :
    (invocation.run world).out = "" ∧ (invocation.run world).ending = .broke breakdown := by
  constructor <;> simp only [Invocation.run, call, unexcluded, bind, Except.bind]

end

end ShellSurvey
