import ShellSurvey.Proofs.CommandLine.Performed
import ShellSurvey.Proofs.Task.LintSteps
import ShellSurvey.Proofs.Walk.Coverage

namespace ShellSurvey

/-- How a command ends where nothing breaks it off: its guards hold, every root is gone through, and
the exit code tells what was come upon. -/
def CommandCompletes (world : World) (exclusion : Exclusion) (settings : Settings)
    (roots : List String) (out : String) (ending : Ending) : Command → Prop
  | .find =>
    SurveyCompletes world exclusion {} roots ∧
      ending = .returned
        (if (reportsBelow world exclusion {} roots).any Observation.failed then 1 else 0)
  | .dump =>
    let probes : Probes := ⟨settings.has .eol, settings.has .cr⟩
    SurveyCompletes world exclusion probes roots ∧
      ending = .returned
        (if (reportsBelow world exclusion probes roots).any Observation.failed then 1 else 0)
  | .lint =>
    let options : LintOptions :=
      ⟨!settings.has .noEol, !settings.has .noCr, settings.has .modulino⟩
    let steps := lintSteps world options exclusion world.disk roots
    (∀ start ∈ lintRoots world options exclusion world.disk roots,
        SurveyCompletes { world with disk := start.1 } exclusion options.probes [start.2]) ∧
      (∀ step ∈ steps, StepGuarded world options step) ∧
      out = String.join (steps.flatMap fun step =>
        (stepFindings world options step).map Finding.shown) ∧
      ending = .returned
        (if steps.any fun step =>
          step.2.failed || !(stepFindings world options step).isEmpty then 1 else 0)
  | .advise =>
    SurveyCompletes world exclusion {} roots ∧
      ending = .returned
        (if (reportsBelow world exclusion {} roots).any fun report =>
          report.failed || report.record.posix then 1 else 0)

theorem any_posix (observations : List Observation) (broken : Option Refusal) :
    ((Survey.mk observations broken).anyFailed ||
      !((Survey.mk observations broken).records.filter (·.posix)).isEmpty) =
      observations.any fun report => report.failed || report.record.posix := by
  unfold Survey.anyFailed Survey.records
  induction observations with
  | nil => rfl
  | cons observation rest ih =>
    rw [List.any_cons, List.any_cons, ← ih]
    cases failed : observation.failed <;> cases posix : observation.record.posix <;>
      simp [failed, posix]

theorem exitCode_success (result : Bool) : exitCode (!result) true = if result then 1 else 0 := by
  cases result <;> rfl

theorem exitCode_finding (result : Bool) : exitCode result false = if result then 1 else 0 := by
  cases result <;> rfl

theorem perform_completes {world : World} {settings : Settings} {roots excluded : List String}
    (names : excludedNames settings = .ok excluded) (passable : world.Passable roots)
    (exclusion : Exclusion) {command : Command} (answers : command = .lint → world.ToolsAnswer) :
    let performed : Performed := command.perform world exclusion settings roots
    CommandCompletes world exclusion settings roots performed.out performed.ending command := by
  have completes (probes : Probes) := survey_completes passable exclusion probes
  have complete (probes : Probes) := (completes probes).whole
  cases command with
  | find =>
    refine ⟨completes {}, ?_⟩
    rw [← exitCode_success]
    simp only [Performed.ending, Command.perform, names, bind, Except.bind, pure, Except.pure,
      findScripts, Survey.report, complete, Survey.settle, Survey.anyFailed]
  | dump =>
    refine ⟨completes _, ?_⟩
    rw [← exitCode_success]
    simp only [Performed.ending, Command.perform, dumpRecords, Survey.report, complete,
      Survey.settle, Survey.anyFailed]
  | advise =>
    refine ⟨completes {}, ?_⟩
    rw [← any_posix _ none, ← exitCode_finding]
    simp only [Performed.ending, Command.perform, adviseMigration, Survey.report, complete,
      Survey.settle]
  | lint =>
    let options : LintOptions :=
      ⟨!settings.has .noEol, !settings.has .noCr, settings.has .modulino⟩
    obtain ⟨surveys, takes, guarded⟩ := lintProgress_completes (answers rfl) passable exclusion options
    have out := takes.out
    have found := takes.found
    simp only [LintProgress.start, String.empty_append] at out
    simp only [LintProgress.start, Bool.false_or] at found
    refine ⟨surveys, guarded, out, ?_⟩
    rw [← exitCode_finding, ← found]
    simp only [Performed.ending, Command.perform, LintProgress.report, takes.unbroken, options]

/-- Every command runs to its end if nothing below its roots stands in the way, whatever other requests
fail, and, where tools are run, whatever they answer. -/
theorem run_completes [PatternLibrary] {world : World} {arguments : Arguments} {excluded : List String}
    (names : excludedNames arguments.settings = .ok excluded)
    (passable : world.Passable arguments.roots) (command : Command)
    (answers : command = .lint → world.ToolsAnswer) :
    (∀ exclusion,
      let performed : Performed :=
        command.perform world exclusion arguments.settings arguments.roots
      CommandCompletes world exclusion arguments.settings arguments.roots performed.out
        performed.ending command) ∧
    ∀ (invocation : Invocation) (exclusion : Exclusion),
      invocation.call = some (command, arguments) →
      exclusionFor world.disk arguments.settings = .ok exclusion →
      CommandCompletes world exclusion arguments.settings arguments.roots
        (invocation.run world).out (invocation.run world).ending command := by
  have completes (exclusion : Exclusion) := perform_completes names passable exclusion answers
  refine ⟨completes, fun invocation exclusion call excludes => ?_⟩
  obtain ⟨out, ending⟩ := run_performed call excludes
  rw [out, ending]
  exact completes exclusion

/-- A command line that names two roots. -/
def onTwoRoots (command : Command) (first second : String) : Invocation :=
  ⟨[], some (command, { paths := some [first, second] }), []⟩

theorem cabinet_passable : cabinet.Passable [".", "lib"] where
  told := cabinet_told
  roots := by decide
  names := Node.names_of_chains (by decide)

theorem run_completes_cabinet :
    exclusionFor cabinet.disk [] = .ok .standard ∧ excludedNames [] = .ok [] ∧
      cabinet.Passable [".", "lib"] ∧ cabinet.ToolsAnswer ∧
      CommandCompletes cabinet .standard [] [".", "lib"]
        ((onTwoRoots .lint "." "lib").run cabinet).out
        ((onTwoRoots .lint "." "lib").run cabinet).ending .lint := by
  let arguments : Arguments := { paths := some [".", "lib"] }
  have names : excludedNames arguments.settings = .ok [] := rfl
  have passable : cabinet.Passable arguments.roots := cabinet_passable
  have answers : Command.lint = .lint → cabinet.ToolsAnswer := by
    rintro - program tool found disk command -
    cases found
    exact ⟨_, rfl⟩
  exact ⟨rfl, rfl, cabinet_passable, answers rfl,
    (run_completes names passable .lint answers).2 (onTwoRoots .lint "." "lib") .standard rfl rfl⟩

theorem LintProgress.foldl_takeRoot_broken {world : World} {exclusion : Exclusion}
    {options : LintOptions} {progress : LintProgress} (broken : progress.broken.isSome = true)
    (roots : List String) : roots.foldl (takeRoot world exclusion options) progress = progress := by
  induction roots with
  | nil => rfl
  | cons root rest ih =>
    have stays : progress.takeRoot world exclusion options root = progress := if_pos broken
    rw [List.foldl_cons, stays, ih]

section

variable {world : World} {root : String} {error : FileError}
  (untold : world.leadsToDirectory (Path.ofText root).text = .error error)
  (exclusion : Exclusion) (rest : List String)
include untold

/-- The survey ends before anything is reported if it cannot be told what its first root leads to. -/
theorem survey_untold (probes : Probes) :
    survey world exclusion probes (root :: rest) =
      ⟨[], some (.failed error)⟩ := by
  have first : SurveyProgress.takeRoot world exclusion probes {} root =
      ⟨#[], [], some (.failed error)⟩ := by
    unfold SurveyProgress.takeRoot
    rw [walk_untold untold]
    rfl
  rw [survey, List.foldl_cons, first, SurveyProgress.foldl_takeRoot_broken rfl]
  rfl

theorem lintProgress_untold (options : LintOptions) :
    lintProgress world exclusion options (root :: rest) =
      { LintProgress.start world.disk with
        broken := some (.refused (.failed error)) } := by
  have first : LintProgress.takeRoot world exclusion options (.start world.disk) root =
      { LintProgress.start world.disk with
        broken := some (.refused (.failed error)) } := by
    have here := survey_untold untold exclusion [] options.probes
    unfold LintProgress.takeRoot LintProgress.start
    rw [surveyRoot_eq]
    simp only [here]
    rfl
  rw [lintProgress, List.foldl_cons, first, LintProgress.foldl_takeRoot_broken rfl]

/-- Every command breaks off, with nothing written, if it cannot be told what its first root leads
to. -/
theorem perform_untold {settings : Settings} {excluded : List String}
    (names : excludedNames settings = .ok excluded) (command : Command) :
    let performed : Performed := command.perform world exclusion settings (root :: rest)
    performed.out = "" ∧ performed.ending =
      .broke (.interrupted (.refused (.failed error))) := by
  have broken (probes : Probes) := survey_untold untold exclusion rest probes
  cases command with
  | find =>
    simp [Performed.out, Performed.ending, Command.perform, names, bind, Except.bind, pure,
      Except.pure, findScripts, Survey.report, broken, Survey.settle, Survey.found, Survey.records]
  | dump =>
    simp [Performed.out, Performed.ending, Command.perform, dumpRecords, Survey.report, broken,
      Survey.settle, Survey.written, Survey.records]
  | advise =>
    simp [Performed.out, Performed.ending, Command.perform, adviseMigration, Survey.report, broken,
      Survey.settle, Survey.records]
  | lint =>
    simp [Performed.out, Performed.ending, Command.perform, lintProgress_untold untold,
      LintProgress.start, LintProgress.report]

end

/-- No script is found behind a root whose name is too long. -/
theorem find_overlong_breaks :
    let run := (onTwoRoots .find overlong "deploy.sh").run (.ofDisk scriptDisk)
    run.out = "" ∧
      run.ending = .broke (.interrupted (.refused (.failed (.system .nameTooLong overlong)))) ∧
      ¬ CommandCompletes (.ofDisk scriptDisk) .standard [] [overlong, "deploy.sh"] run.out
        run.ending .find := by
  have free : NulFree overlong := nulFree_iff.mpr (not_mem_overlong (by decide))
  have tooLong : ¬ (World.ofDisk scriptDisk).disk.CanTell (.ofText overlong) :=
    Disk.not_canTell_of_long_name properName_overlong free (overlong_ne (by decide))
      nameLimit_lt_overlong
  have untold := World.leadsToDirectory_untold rfl tooLong
  have text := properName_overlong.path.2
  clear free tooLong
  rw [text] at untold
  generalize overlong = root at untold text ⊢
  have call : (onTwoRoots .find root "deploy.sh").call =
    some (.find, { paths := some [root, "deploy.sh"] }) := rfl
  have excludes : exclusionFor (World.ofDisk scriptDisk).disk [] = .ok .standard := rfl
  obtain ⟨out, ending⟩ := run_performed call excludes
  have names : excludedNames [] = .ok [] := rfl
  have here : (World.ofDisk scriptDisk).leadsToDirectory (Path.ofText root).text =
      .error (.system .nameTooLong root) := by
    rw [text]
    exact untold
  have broken := perform_untold here .standard ["deploy.sh"] names .find
  intro run
  refine ⟨out.trans broken.1, ending.trans broken.2, fun completes => ?_⟩
  rw [CommandCompletes, ending.trans broken.2] at completes
  cases completes.2

end ShellSurvey
