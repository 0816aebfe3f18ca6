import ShellSurvey.Proofs.CommandLine.Performed
import ShellSurvey.Proofs.Exclusion.Standard
import ShellSurvey.Proofs.Lint.Gates
import ShellSurvey.Proofs.Lint.Validation
import ShellSurvey.Proofs.Survey.Yield
import ShellSurvey.Proofs.Walk.Dashes

namespace ShellSurvey

/-- A command whose last word passes for an option. -/
def EndsDashed (command : List String) : Prop := ∃ script ∈ command.getLast?, Dashed script

theorem ValidatesAt.getLast? {command : List String} {path : String}
    (validates : ValidatesAt command path) : command.getLast? = some path := by
  obtain ⟨interpreter, validator, _, rfl⟩ := validates
  obtain ⟨options, called⟩ := validator.call_eq interpreter path
  rw [called]
  exact List.getLast?_concat (l := validator.executable interpreter :: options)

theorem ValidatesAt.endsDashed_iff {command : List String} {path : String}
    (validates : ValidatesAt command path) : EndsDashed command ↔ Dashed path := by
  simp [EndsDashed, validates.getLast?]

section

variable {world : World} {record : Record}

theorem validatesAt_of_checkValidity {command : List String}
    (ran : (checkValidity world record).command = some command) :
    ValidatesAt command record.path := by
  unfold checkValidity at ran
  split at ran
  · obtain ⟨findings, course, checked⟩ := validation_along world record
    rw [checked] at ran
    generalize validate world record = validation at course ran
    cases course with
    | unknown | missing | unlaunched => cases ran
    | accepted runs | rejected runs | garbled runs =>
      cases ran
      exact runs.validatesAt
  · cases ran

/-- The rules on content run nothing, and leave the disk as it is. -/
theorem checkContent_frame (world : World) (record : Record) (lint : Lint)
    (rules : List ContentRule) :
    (checkContent world record lint rules).commands = lint.commands ∧
      (checkContent world record lint rules).disk = lint.disk := by
  induction rules generalizing lint with
  | nil => exact ⟨rfl, rfl⟩
  | cons rule rules ih =>
    unfold checkContent
    cases rule.check world record with
    | ok findings => exact ih _
    | error refusal => cases refusal <;> exact ⟨rfl, rfl⟩

/-- Linting a script runs what checking its validity runs, and takes away no more than the tool does. -/
theorem lintRecord_frame (world : World) (options : LintOptions) (record : Record) :
    (lintRecord world options record).commands =
        (if record.lintable then (checkValidity world record).command.toList else []) ∧
      (lintRecord world options record).disk.Within world.disk := by
  cases lintable : record.lintable with
  | false =>
    rw [lintRecord, lintable, if_neg Bool.false_ne_true]
    exact ⟨rfl, .refl _⟩
  | true =>
    rw [lintRecord_eq world options lintable, if_pos rfl]
    have within := afterTool_within world.disk record.path (checkValidity world record).removed
    split
    · obtain ⟨commands, disk⟩ := checkContent_frame
        { world with disk := afterTool world.disk record.path (checkValidity world record).removed }
        record (validityCourse world options record).lint [.ifs, .safety, .traps]
      rw [commands, disk]
      exact ⟨rfl, within⟩
    · exact ⟨rfl, within⟩

end

/-- A lint under way all of whose commands are of some kind, on a disk that has lost entries at most. -/
structure LintProgress.Keeps (kind : List String → Prop) (disk : Disk) (progress : LintProgress) :
    Prop where
  commands : ∀ command ∈ progress.commands, kind command
  within : progress.disk.Within disk

section

variable {world : World} {exclusion : Exclusion} {options : LintOptions}
  {kind : List String → Prop} {disk : Disk} {progress : LintProgress}

theorem LintProgress.Keeps.take (keeps : progress.Keeps kind disk) {observation : Observation}
    (runs : observation.failed = false → ∀ later : Disk,
      ∀ command ∈ (checkValidity { world with disk := later } observation.record).command,
        kind command) :
    (progress.take world options observation).Keeps kind disk := by
  unfold LintProgress.take
  split
  · exact keeps
  split
  · exact ⟨keeps.commands, keeps.within⟩
  · next succeeded =>
    obtain ⟨commands, within⟩ :=
      lintRecord_frame { world with disk := progress.disk } options observation.record
    refine ⟨?_, within.trans keeps.within⟩
    dsimp only
    rw [commands]
    refine List.forall_mem_append.mpr ⟨keeps.commands, fun command member => ?_⟩
    split at member
    · exact runs (Bool.eq_false_iff.mpr succeeded) progress.disk command (Option.mem_toList.mp member)
    · cases member

theorem LintProgress.Keeps.foldl_take (keeps : progress.Keeps kind disk)
    {observations : List Observation}
    (run : ∀ observation ∈ observations, observation.failed = false → ∀ later : Disk,
      ∀ command ∈ (checkValidity { world with disk := later } observation.record).command,
        kind command) :
    (observations.foldl (.take world options) progress).Keeps kind disk := by
  induction observations generalizing progress with
  | nil => exact keeps
  | cons observation rest ih =>
    obtain ⟨runsHere, runLater⟩ := List.forall_mem_cons.mp run
    exact ih (keeps.take runsHere) runLater

/-- Whatever is left of a disk, what is observed below a root runs commands of some kind only, on whatever
is left of the disk by then. -/
def RunsBelow (world : World) (exclusion : Exclusion) (options : LintOptions)
    (kind : List String → Prop) (disk : Disk) (root : String) : Prop :=
  ∀ later : Disk, later.Within disk →
    ∀ observation ∈ (surveyRoot { world with disk := later } exclusion options.probes
        root).observations,
      observation.failed = false → ∀ last : Disk,
        ∀ command ∈ (checkValidity { world with disk := last } observation.record).command,
          kind command

theorem LintProgress.Keeps.takeRoot (keeps : progress.Keeps kind disk) {root : String}
    (run : RunsBelow world exclusion options kind disk root) :
    (progress.takeRoot world exclusion options root).Keeps kind disk := by
  unfold LintProgress.takeRoot
  split
  · exact keeps
  · have observed := run progress.disk keeps.within
    dsimp only
    generalize surveyRoot { world with disk := progress.disk } exclusion options.probes root =
      survey at observed ⊢
    have along : (survey.observations.foldl (.take world options) progress).Keeps kind disk :=
      keeps.foldl_take observed
    generalize survey.observations.foldl (.take world options) progress = ended at along ⊢
    exact ⟨along.commands, along.within⟩

theorem LintProgress.Keeps.foldl_takeRoot (keeps : progress.Keeps kind disk) {roots : List String}
    (run : ∀ root ∈ roots, RunsBelow world exclusion options kind disk root) :
    (roots.foldl (.takeRoot world exclusion options) progress).Keeps kind disk := by
  induction roots generalizing progress with
  | nil => exact keeps
  | cons root rest ih =>
    obtain ⟨runsHere, runLater⟩ := List.forall_mem_cons.mp run
    exact ih (keeps.takeRoot runsHere) runLater

end

/-- A command is given the script at some names below a root, where a walk came upon it, maybe after
tools took other scripts away. -/
structure GivesScript (world : World) (exclusion : Exclusion) (root : String) (names : List String)
    (command : List String) : Prop where
  visited : ∃ disk : Disk, disk.Within world.disk ∧
    .entry ((Path.ofText root).descend names) ∈
      (walk { world with disk := disk } exclusion (.ofText root)).visits
  validates : ValidatesAt command ((Path.ofText root).descend names).text

theorem givesScript_below (world : World) (exclusion : Exclusion) (options : LintOptions)
    (root : String) :
    RunsBelow world exclusion options
      (fun command => ∃ names, GivesScript world exclusion root names command) world.disk root := by
  intro disk within observation observed succeeded last command ran
  rw [surveyRoot_eq] at observed
  have kept : observation ∈ (survey { world with disk := disk } exclusion options.probes
      [root]).observations.filter fun observation => !observation.failed :=
    List.mem_filter.mpr ⟨observed, by rw [succeeded]; rfl⟩
  obtain ⟨path, visited, classified⟩ := classified_of_mem_records (List.mem_map_of_mem kept)
  have onPath : observation.record.path = path.text := by
    have told := (tellsOf_classify { world with disk := disk } .standard options.probes path.text).onPath
    rw [classified] at told
    exact told
  rw [visitsBelow, List.flatMap_cons, List.flatMap_nil, List.append_nil] at visited
  obtain ⟨names, below⟩ :=
    path_of_mem_tour ((walk_begins { world with disk := disk } exclusion _).first.subset visited)
  have descends : path = (Path.ofText root).descend names := below
  subst descends
  exact ⟨names, ⟨disk, within, visited⟩, onPath ▸ validatesAt_of_checkValidity ran⟩

/-- A command is given a script below one of some roots. -/
def GivesScriptBelow (world : World) (exclusion : Exclusion) (roots command : List String) : Prop :=
  ∃ root ∈ roots, ∃ names, GivesScript world exclusion root names command

theorem givesScriptBelow_of_mem_commands {world : World} {exclusion : Exclusion} {options : LintOptions}
    {roots command : List String}
    (ran : command ∈ (lintScripts world exclusion options roots).commands) :
    GivesScriptBelow world exclusion roots command := by
  have start : (LintProgress.start world.disk).Keeps (GivesScriptBelow world exclusion roots)
      world.disk := ⟨List.forall_mem_nil _, .refl _⟩
  have kept : (lintProgress world exclusion options roots).Keeps
      (GivesScriptBelow world exclusion roots) world.disk := by
    refine start.foldl_takeRoot fun root member => ?_
    intro disk within observation observed succeeded last command ran
    exact ⟨root, member, givesScript_below world exclusion options root disk within observation
      observed succeeded last command ran⟩
  exact kept.commands command ran

/-- Nothing but a lint runs commands. -/
theorem linted_of_mem_commands [PatternLibrary] {world : World} {args command : List String}
    (ran : command ∈ (runCommandLine world args).commands) :
    ∃ invocation arguments exclusion options,
      readCommandLine args = .ok invocation ∧ invocation.call = some (.lint, arguments) ∧
        command ∈ (lintScripts world exclusion options arguments.roots).commands := by
  unfold runCommandLine at ran
  cases read : readCommandLine args with
  | error stop =>
    rw [read] at ran
    cases stop <;> cases ran
  | ok invocation =>
    rw [read] at ran
    dsimp only [Invocation.run] at ran
    cases call : invocation.call with
    | none =>
      rw [call] at ran
      cases ran
    | some called =>
      obtain ⟨performed, arguments⟩ := called
      rw [call] at ran
      dsimp only at ran
      cases excludes : exclusionFor world.disk arguments.settings with
      | error breakdown =>
        rw [excludes] at ran
        cases ran
      | ok exclusion =>
        rw [excludes] at ran
        cases performed with
        | lint => exact ⟨invocation, arguments, exclusion, _, rfl, call, ran⟩
        | find =>
          cases names : excludedNames arguments.settings with
          | error breakdown =>
            simp only [Command.perform, names, bind, Except.bind] at ran
            cases ran
          | ok excluded =>
            simp only [Command.perform, names, bind, Except.bind, pure, Except.pure] at ran
            cases ran
        | dump => cases ran
        | advise => cases ran

theorem commands_runCommandLine [PatternLibrary] {world : World} {args : List String} {invocation : Invocation}
    {arguments : Arguments} {exclusion : Exclusion} (read : readCommandLine args = .ok invocation)
    (call : invocation.call = some (.lint, arguments))
    (excludes : exclusionFor world.disk arguments.settings = .ok exclusion) :
    (runCommandLine world args).commands =
      (lintScripts world exclusion ⟨!arguments.settings.has .noEol, !arguments.settings.has .noCr,
        arguments.settings.has .modulino⟩ arguments.roots).commands := by
  rw [runCommandLine, read]
  dsimp only
  rw [Invocation.run, call]
  dsimp only
  rw [excludes]
  rfl

/-- A root that is neither the current directory nor begins with a dash in its normal form. -/
def ShieldsNames (root : String) : Prop :=
  Path.ofText root ≠ .here ∧ ¬ Dashed (Path.ofText root).text

instance (root : String) : Decidable (ShieldsNames root) := inferInstanceAs (Decidable (_ ∧ _))

theorem GivesScript.endsDashed_iff {world : World} {exclusion : Exclusion} {root : String}
    {names command : List String} (gives : GivesScript world exclusion root names command) :
    EndsDashed command ↔ Dashed (Path.ofText root).text ∨
      Path.ofText root = .here ∧ ∃ name ∈ names.head?, Dashed name := by
  rw [gives.validates.endsDashed_iff, Path.dashed_descend_iff]

/-- Every command that a lint runs is given one script, as its last word, and nothing else of the tree. That
word begins with a dash exactly if the normal form of the root does, or the root is the current directory
and the script's first name does. So below roots that shield names none does; of the roots that do not
begin with a dash, these are all but the current directory and those that have a dash behind a dot and a
slash. On the command line it is a lint, of its own roots or else of the current directory, that runs
commands. -/
theorem lint_gives_scripts [PatternLibrary] (world : World) :
    (∀ exclusion options roots, ∀ command ∈ (lintScripts world exclusion options roots).commands,
      ∃ root ∈ roots, ∃ names, GivesScript world exclusion root names command ∧
        (EndsDashed command ↔ Dashed (Path.ofText root).text ∨
          Path.ofText root = .here ∧ ∃ name ∈ names.head?, Dashed name)) ∧
      (∀ exclusion options roots, (∀ root ∈ roots, ShieldsNames root) →
        ∀ command ∈ (lintScripts world exclusion options roots).commands,
          ∃ path, ValidatesAt command path ∧ ¬ Dashed path) ∧
      (∀ root, ¬ Dashed root → ShieldsNames root ∨ Path.ofText root = .here ∨
        ['.', '/'] <+: root.toList ∧ Dashed (Path.ofText root).text) ∧
      ∀ args, ∀ command ∈ (runCommandLine world args).commands,
        ∃ invocation arguments exclusion options,
          readCommandLine args = .ok invocation ∧ invocation.call = some (.lint, arguments) ∧
            command ∈ (lintScripts world exclusion options arguments.roots).commands := by
  refine ⟨?_, ?_, ?_, fun args command => linted_of_mem_commands⟩
  · intro exclusion options roots command ran
    obtain ⟨root, member, names, gives⟩ := givesScriptBelow_of_mem_commands ran
    exact ⟨root, member, names, gives, gives.endsDashed_iff⟩
  · intro exclusion options roots shielded command ran
    obtain ⟨root, member, names, gives⟩ := givesScriptBelow_of_mem_commands ran
    obtain ⟨elsewhere, undashed⟩ := shielded root member
    refine ⟨_, gives.validates, fun dashed => ?_⟩
    rcases (Path.dashed_descend_iff _ names).mp dashed with ofRoot | ⟨here, _⟩
    · exact undashed ofRoot
    · exact elsewhere here
  · intro root undashed
    by_cases here : Path.ofText root = .here
    · exact Or.inr (Or.inl here)
    by_cases dashed : Dashed (Path.ofText root).text
    · exact Or.inr (Or.inr ⟨(dashed_of_ofText dashed).resolve_left undashed, dashed⟩)
    · exact Or.inl ⟨here, dashed⟩

section

variable {world : World} {exclusion : Exclusion} {options : LintOptions} {root : String}
  {record : Record}

theorem command_of_validator {validator : Validator} {answer : ToolAnswer}
    (posix : record.posix = true)
    (known : Validator.forInterpreter? record.interpreterName = some validator)
    (answered : world.launch (validator.executable record.interpreterName)
      (validator.call record.interpreterName record.path).command = some (.answered answer)) :
    (checkValidity world record).command =
      some (validator.call record.interpreterName record.path).command := by
  rw [checkValidity, if_pos posix, validate, known]
  simp only [answered]
  rfl

/-- Where a walk comes upon a single script, linting runs its command alone. -/
theorem commands_lone_script {path : Path} {command : List String}
    (walked : walk world exclusion (.ofText root) = ⟨[.entry path], none⟩)
    (classified : classify world .standard options.probes path.text = .ok record)
    (lintable : record.lintable = true) (runs : (checkValidity world record).command = some command) :
    (lintScripts world exclusion options [root]).commands = [command] := by
  have observed : (observePath world options.probes path.text).sighting = ⟨record, none⟩ := by
    rw [observePath, classified]
    rfl
  have succeeded : (observePath world options.probes path.text).failed = false := by
    rw [Observation.failed, observed]
    rfl
  have usable : (observePath world options.probes path.text).unusable = false := by
    rw [Observation.unusable, observed]
  have surveyed : surveyRoot world exclusion options.probes root =
      ⟨[observePath world options.probes path.text], none⟩ := by
    simp [surveyRoot, SurveyProgress.takeRoot, SurveyProgress.take, SurveyProgress.drain,
      SurveyProgress.survey, walked, usable]
  have onRecord : (observePath world options.probes path.text).record = record :=
    congrArg Sighting.record observed
  obtain ⟨commands, _⟩ := lintRecord_frame world options record
  rw [if_pos lintable, runs] at commands
  simp [lintScripts, LintProgress.report, lintProgress, LintProgress.takeRoot, LintProgress.take,
    LintProgress.start, surveyed, succeeded, onRecord, commands]

end

/-- A script of nothing but a shebang. -/
def bareScript : Bytes := [0x23, 0x21, 0x2F, 0x62, 0x69, 0x6E, 0x2F, 0x73, 0x68, 0x0A]

/-- A world with a single script, of some name, and every tool. -/
def loneScript (name : String) : World where
  disk := {
    entries := [(name, .file bareScript 0o644)]
    ordered := ⟨fun _ member => absurd member List.not_mem_nil, trivial, trivial⟩ }
  faults := fun _ _ => none
  tools := fun _ => some fun _ _ => .answered {}

/-- What a lint sees of the single script. -/
def loneRecord (name : String) (probes : Probes) : Record :=
  ((Record.ofEntry .standard name 0o644).settle .standard probes bareScript).seeAll probes bareScript

section

variable {name : String} (entry : EntryName name) (free : NulFree name)
  (short : name.utf8ByteSize ≤ nameLimit)
include entry free short

theorem loneScript_lookup (follow : Bool) :
    (loneScript name).disk.lookup follow name = .ok (.file bareScript 0o644) := by
  refine Disk.lookup_name ?_ entry.1.pathNames free entry.1.relative short ?_ entry.2
  · simp [loneScript]
  · exact not_or.mpr ⟨entry.1.1, entry.1.2.1⟩

/-- The script is come upon from the current directory and under its own name. -/
theorem loneScript_walk (oneLine : '\n' ∉ name.toList) {root : Path}
    (start : root = .here ∨ root = .ofText name) :
    walk (loneScript name) .standard root = ⟨[.entry (.ofText name)], none⟩ := by
  obtain ⟨path, text⟩ := entry.1.path
  have told : (loneScript name).leadsToDirectory (Path.ofText name).text = .ok false := by
    rw [World.leadsToDirectory_calm rfl, text, Disk.leadsToDirectory,
      loneScript_lookup entry free short]
  -- Files are never skipped for their own name.
  have kept : Exclusion.standard.skips (.ofText name) false = false := by
    have below : Path.ofText name = Path.here.descend [name] := path
    rw [below, Bool.eq_false_iff]
    intro skipped
    rw [skips_standard_iff wildmatch_laws wildmatch_findsDirectories
      (by simpa using ⟨entry.1, oneLine⟩) (by simp)] at skipped
    obtain ⟨_, member, _⟩ := skipped
    cases member
  have leaf (below : Path) (top : below = .here ∨ below = .ofText name) :
      walkLeaf (loneScript name) .standard (.ofText name) below = .single (.entry (.ofText name)) := by
    rw [walkLeaf, told]
    rcases top with rfl | rfl
    · rfl
    · simp [kept]
  rcases start with rfl | rfl
  · have here : (loneScript name).leadsToDirectory Path.here.text = .ok true := by
      rw [World.leadsToDirectory_calm rfl, Disk.leadsToDirectory, Disk.lookup_here]
    have child : Path.here.child name = .ofText name := path.symm
    have inside : walkEntries (loneScript name) .standard .here .here (loneScript name).disk.entries =
        ⟨[.entry (.ofText name)], none⟩ := by
      rw [loneScript, walkEntries, walkEntries, walkNode, child]
      exact congrArg (Walk.andThen · .nothing) (leaf _ (Or.inr rfl))
    rw [walk, Disk.lookup_here]
    dsimp only
    rw [walkNode, here]
    dsimp only
    rw [if_neg fun both => both.1 rfl]
    exact inside
  · rw [walk, text, loneScript_lookup entry free short]
    dsimp only
    rw [walkNode]
    exact leaf .here (Or.inl rfl)

/-- Linting the script runs one command, which is given its name. -/
theorem loneScript_commands (oneLine : '\n' ∉ name.toList)
    (noBackup : isBackupName (fileNameOf name) = false) {options : LintOptions}
    (lintable : (loneRecord name options.probes).lintable = true)
    (posix : (loneRecord name options.probes).posix = true)
    (sh : (loneRecord name options.probes).interpreterName = "sh") {root : String}
    (start : Path.ofText root = .here ∨ Path.ofText root = .ofText name) :
    (lintScripts (loneScript name) .standard options [root]).commands =
      [["shellcheck", "--shell=sh", "--severity=error", name]] := by
  have text := entry.1.path.2
  have classified : classify (loneScript name) .standard options.probes (Path.ofText name).text =
      .ok (loneRecord name options.probes) := by
    have calm : (loneScript name).Calm name := fun _ _ => rfl
    rw [text, classify_calm (loneScript_lookup entry free short false) noBackup calm, loneRecord]
  have onPath : (loneRecord name options.probes).path = name := by
    have told := (tellsOf_classify (loneScript name) .standard options.probes
      (Path.ofText name).text).onPath
    rw [classified] at told
    exact told.trans text
  refine commands_lone_script (loneScript_walk entry free short oneLine start) classified lintable ?_
  have known : Validator.forInterpreter? (loneRecord name options.probes).interpreterName =
      some .shellcheck := by
    rw [sh]
    decide
  rw [command_of_validator posix known rfl, sh, onPath]
  rfl

end

/-- The commands of a lint of a script that begins with a dash. -/
theorem dashedScript_commands {root : String}
    (start : Path.ofText root = .here ∨ Path.ofText root = .ofText "-x.sh") :
    (lintScripts (loneScript "-x.sh") .standard {} [root]).commands =
      [["shellcheck", "--shell=sh", "--severity=error", "-x.sh"]] :=
  loneScript_commands (by decide) (by decide) (by decide) (by decide) (by decide +kernel)
    (by decide +kernel) (by decide +kernel) (by decide +kernel) start

theorem lint_gives_scripts_lone :
    (["shellcheck", "--shell=sh", "--severity=error", "a.sh"] ∈
        (lintScripts (loneScript "a.sh") .standard {} ["a.sh"]).commands ∧
      (∀ root ∈ ["a.sh"], ShieldsNames root) ∧
      ∃ path, ValidatesAt ["shellcheck", "--shell=sh", "--severity=error", "a.sh"] path ∧
        ¬ Dashed path) ∧
      (["shellcheck", "--shell=sh", "--severity=error", "-x.sh"] ∈
          (lintScripts (loneScript "-x.sh") .standard {} ["."]).commands ∧
        ∃ root ∈ ["."], ∃ names, GivesScript (loneScript "-x.sh") .standard root names
            ["shellcheck", "--shell=sh", "--severity=error", "-x.sh"] ∧
          (EndsDashed ["shellcheck", "--shell=sh", "--severity=error", "-x.sh"] ↔
            Dashed (Path.ofText root).text ∨
              Path.ofText root = .here ∧ ∃ name ∈ names.head?, Dashed name)) ∧
      ¬ Dashed "./-x.sh" ∧ (ShieldsNames "./-x.sh" ∨ Path.ofText "./-x.sh" = .here ∨
        ['.', '/'] <+: "./-x.sh".toList ∧ Dashed (Path.ofText "./-x.sh").text) := by
  obtain ⟨_, undashed, _⟩ := lint_gives_scripts (loneScript "a.sh")
  obtain ⟨given, _, unshielded, _⟩ := lint_gives_scripts (loneScript "-x.sh")
  refine ⟨?_, ?_, ?_⟩
  · have ran : ["shellcheck", "--shell=sh", "--severity=error", "a.sh"] ∈
        (lintScripts (loneScript "a.sh") .standard {} ["a.sh"]).commands := by
      rw [loneScript_commands (by decide) (by decide) (by decide) (by decide) (by decide +kernel)
        (by decide +kernel) (by decide +kernel) (by decide +kernel) (Or.inr rfl)]
      exact List.mem_cons_self
    have shielded : ∀ root ∈ ["a.sh"], ShieldsNames root := by decide
    exact ⟨ran, shielded, undashed .standard {} ["a.sh"] shielded _ ran⟩
  · have ran : ["shellcheck", "--shell=sh", "--severity=error", "-x.sh"] ∈
        (lintScripts (loneScript "-x.sh") .standard {} ["."]).commands := by
      rw [dashedScript_commands (Or.inl (by decide))]
      exact List.mem_cons_self
    exact ⟨ran, given .standard {} ["."] _ ran⟩
  · have undashedRoot : ¬ Dashed "./-x.sh" := by decide
    exact ⟨undashedRoot, unshielded _ undashedRoot⟩

/-- In the current directory a script that begins with a dash is given as an option, be it found there or
named with a dot and a slash in front. -/
theorem dashed_name_given :
    (∀ args ∈ [["lint"], ["lint", "."], ["lint", "./-x.sh"]],
      (runCommandLine (loneScript "-x.sh") args).commands =
        [["shellcheck", "--shell=sh", "--severity=error", "-x.sh"]]) ∧
      EndsDashed ["shellcheck", "--shell=sh", "--severity=error", "-x.sh"] ∧
      ∀ root ∈ [".", "./-x.sh"], ¬ Dashed root := by
  refine ⟨?_, ⟨_, rfl, by decide⟩, by decide⟩
  simp only [List.forall_mem_cons, List.not_mem_nil, false_implies, implies_true, and_true]
  refine ⟨?_, ?_, ?_⟩
  · have read : readCommandLine ["lint"] = .ok ⟨[], some (.lint, {}), []⟩ := by decide +kernel
    exact (commands_runCommandLine read rfl rfl).trans (dashedScript_commands (Or.inl (by decide)))
  · have read : readCommandLine ["lint", "."] =
        .ok ⟨[], some (.lint, { paths := some ["."] }), []⟩ := by decide +kernel
    exact (commands_runCommandLine read rfl rfl).trans (dashedScript_commands (Or.inl (by decide)))
  · have read : readCommandLine ["lint", "./-x.sh"] =
        .ok ⟨[], some (.lint, { paths := some ["./-x.sh"] }), []⟩ := by decide +kernel
    exact (commands_runCommandLine read rfl rfl).trans (dashedScript_commands (Or.inr (by decide)))

end ShellSurvey
