import ShellSurvey.Proofs.CommandLine.FirstFlag
import ShellSurvey.Proofs.Lint.Modulino
import ShellSurvey.Proofs.Survey.Queue
import ShellSurvey.Proofs.Task.LintOutput

namespace ShellSurvey

/-- Two lints under way, which may have written out different findings. -/
structure LintProgress.Abreast (progress other : LintProgress) : Prop where
  log : other.log = progress.log
  commands : other.commands = progress.commands
  found : other.found = progress.found
  disk : other.disk = progress.disk
  broken : other.broken = progress.broken

/-- The findings that are on anything but modulinos. -/
def withoutModulino (findings : List Finding) : List Finding :=
  findings.filter (·.kind ≠ Kinds.modulino)

section

variable (world : World) (exclusion : Exclusion) (options : LintOptions)

/-- An observation that is a failure, or has a sound record. -/
def Observation.Sound (observation : Observation) : Prop :=
  observation.failed = true ∨ observation.record.Sound

variable {progress other : LintProgress}

theorem LintProgress.Abreast.take (abreast : progress.Abreast other) {observation : Observation}
    (sound : observation.Sound) :
    (progress.take world (options.withModulino false) observation).Abreast
        (other.take world (options.withModulino true) observation) ∧
      withoutModulino (other.shows world (options.withModulino true) observation) =
        progress.shows world (options.withModulino false) observation := by
  unfold LintProgress.take LintProgress.shows
  rw [abreast.broken, abreast.disk]
  cases progress.broken.isSome with
  | true => exact ⟨abreast, rfl⟩
  | false =>
    cases failed : observation.failed with
    | true =>
      exact ⟨⟨congrArg (· ++ observation.notes) abreast.log, abreast.commands, rfl, rfl, rfl⟩, rfl⟩
    | false =>
      have known : observation.record.Sound := by
        rw [Observation.Sound, failed] at sound
        exact sound.resolve_left Bool.false_ne_true
      have gains := lintRecord_modulino { world with disk := progress.disk } options known
      generalize lintRecord { world with disk := progress.disk } (options.withModulino false)
        observation.record = lint at gains ⊢
      generalize lintRecord { world with disk := progress.disk } (options.withModulino true)
        observation.record = strict at gains ⊢
      simp only [Bool.false_eq_true, if_false, Bool.or_self, gains.broken]
      refine ⟨⟨?_, ?_, ?_, gains.disk, rfl⟩, ?_⟩
      · rw [abreast.log, gains.log]
      · rw [abreast.commands, gains.commands]
      · rw [abreast.found]
        split
        · rfl
        · rw [gains.clean]
      · split
        · rfl
        · exact gains.findings

theorem LintProgress.Abreast.foldl_take (abreast : progress.Abreast other)
    {observations : List Observation} (sound : ∀ observation ∈ observations, observation.Sound) :
    (observations.foldl (.take world (options.withModulino false)) progress).Abreast
        (observations.foldl (.take world (options.withModulino true)) other) ∧
      withoutModulino (other.showsAlong world (options.withModulino true) observations) =
        progress.showsAlong world (options.withModulino false) observations := by
  induction observations generalizing progress other with
  | nil => exact ⟨abreast, rfl⟩
  | cons observation rest ih =>
    obtain ⟨soundHere, soundLater⟩ := List.forall_mem_cons.mp sound
    obtain ⟨first, here⟩ := abreast.take world options soundHere
    obtain ⟨whole, later⟩ := ih first soundLater
    refine ⟨whole, ?_⟩
    rw [LintProgress.showsAlong, LintProgress.showsAlong, ← here, ← later]
    exact List.filter_append ..

theorem sound_of_mem_observations {probes : Probes} {roots : List String} {observation : Observation}
    (member : observation ∈ (survey world exclusion probes roots).observations) :
    observation.Sound := by
  cases failed : observation.failed with
  | true => exact Or.inl failed
  | false =>
    have kept : observation ∈ (survey world exclusion probes roots).observations.filter
        (fun observation => !observation.failed) :=
      List.mem_filter.mpr ⟨member, by rw [failed]; rfl⟩
    exact Or.inr (mem_records (List.mem_map_of_mem kept)).1.toSound

/-- Both lints survey a root alike, for neither the exclusion nor the probes depend on the rule. -/
theorem LintProgress.Abreast.takeRoot (abreast : progress.Abreast other) (root : String) :
    (progress.takeRoot world exclusion (options.withModulino false) root).Abreast
        (other.takeRoot world exclusion (options.withModulino true) root) ∧
      withoutModulino (other.showsBelow world exclusion (options.withModulino true) root) =
        progress.showsBelow world exclusion (options.withModulino false) root := by
  unfold LintProgress.takeRoot LintProgress.showsBelow
  rw [abreast.broken, abreast.disk]
  cases progress.broken.isSome with
  | true => exact ⟨abreast, rfl⟩
  | false =>
    have probes : (options.withModulino true).probes = (options.withModulino false).probes := rfl
    rw [probes]
    have sound : ∀ observation ∈ (surveyRoot { world with disk := progress.disk } exclusion
        (options.withModulino false).probes root).observations, observation.Sound := by
      rw [surveyRoot_eq]
      exact fun _ => sound_of_mem_observations _ exclusion
    generalize surveyRoot { world with disk := progress.disk } exclusion
      (options.withModulino false).probes root = survey at sound ⊢
    obtain ⟨along, shown⟩ := abreast.foldl_take world options sound
    exact ⟨⟨along.log, along.commands, along.found, along.disk,
      congrArg (·.or (survey.broken.map .refused)) along.broken⟩, shown⟩

theorem LintProgress.Abreast.foldl_takeRoot (abreast : progress.Abreast other)
    (roots : List String) :
    (roots.foldl (.takeRoot world exclusion (options.withModulino false)) progress).Abreast
        (roots.foldl (.takeRoot world exclusion (options.withModulino true)) other) ∧
      withoutModulino (other.showsBelowAll world exclusion (options.withModulino true) roots) =
        progress.showsBelowAll world exclusion (options.withModulino false) roots := by
  induction roots generalizing progress other with
  | nil => exact ⟨abreast, rfl⟩
  | cons root rest ih =>
    obtain ⟨first, here⟩ := abreast.takeRoot world exclusion options root
    obtain ⟨whole, later⟩ := ih first
    refine ⟨whole, ?_⟩
    rw [LintProgress.showsBelowAll, LintProgress.showsBelowAll, ← here, ← later]
    exact List.filter_append ..

theorem lintProgress_modulino (roots : List String) :
    (lintProgress world exclusion (options.withModulino false) roots).Abreast
        (lintProgress world exclusion (options.withModulino true) roots) ∧
      withoutModulino (lintFindings world exclusion (options.withModulino true) roots) =
        lintFindings world exclusion (options.withModulino false) roots :=
  LintProgress.Abreast.foldl_takeRoot world exclusion options ⟨rfl, rfl, rfl, rfl, rfl⟩ roots

/-- Asking for the rule where it is asked for already changes nothing at all. -/
theorem lintProgress_abreast (roots : List String) :
    (lintProgress world exclusion options roots).Abreast
      (lintProgress world exclusion (options.withModulino true) roots) := by
  cases asked : options.modulino with
  | true =>
    have same : options.withModulino true = options := by rw [LintOptions.withModulino, ← asked]
    rw [same]
    exact ⟨rfl, rfl, rfl, rfl, rfl⟩
  | false =>
    have same : options.withModulino false = options := by rw [LintOptions.withModulino, ← asked]
    have abreast := (lintProgress_modulino world exclusion options roots).1
    rwa [same] at abreast

/-- What linting some roots writes out are the findings that it reports. -/
theorem out_lintProgress (roots : List String) :
    (lintProgress world exclusion options roots).out =
      String.join ((lintFindings world exclusion options roots).map Finding.shown) := by
  have along : (lintProgress world exclusion options roots).out =
      "" ++ String.join ((lintFindings world exclusion options roots).map Finding.shown) :=
    LintProgress.out_foldl_takeRoot (.start world.disk) roots
  rw [along, String.empty_append]

end

theorem Settings.last?_cons_of_ne {key other : OptionKey} (different : key ≠ other)
    (value : Option String) (settings : Settings) :
    Settings.last? ((other, value) :: settings) key = settings.last? key := by
  have apart : (key == other) = false := beq_false_of_ne different
  unfold last?
  rw [List.reverse_cons, List.lookup_append, List.lookup_cons, apart]
  exact Option.or_none

/-- A command line that asks for the rule on modulinos too runs as it does without, but for the findings
that it writes out. -/
theorem Invocation.run_withModulino [PatternLibrary] (world : World) (invocation : Invocation) :
    invocation.withModulino.run world =
      { invocation.run world with out := (invocation.withModulino.run world).out } := by
  obtain ⟨settings, call, strays⟩ := invocation
  cases call with
  | none => rfl
  | some called =>
    obtain ⟨command, arguments⟩ := called
    have excludes : exclusionFor world.disk (arguments.first (.modulino, none)).settings =
        exclusionFor world.disk arguments.settings := by
      rw [exclusionFor, Arguments.first, Settings.last?_cons_of_ne (by decide)]
      rfl
    have names : excludedNames (arguments.first (.modulino, none)).settings =
        excludedNames arguments.settings := by
      rw [excludedNames, Arguments.first, Settings.last?_cons_of_ne (by decide)]
      rfl
    simp only [Invocation.run, Invocation.withModulino, Option.map, excludes]
    cases exclusionFor world.disk arguments.settings with
    | error breakdown => rfl
    | ok exclusion =>
      cases command with
      | find =>
        simp only [Command.perform, names]
        cases excludedNames arguments.settings <;> rfl
      | dump | advise => rfl
      | lint =>
        let options : LintOptions :=
          ⟨!arguments.settings.has .noEol, !arguments.settings.has .noCr,
            arguments.settings.has .modulino⟩
        have strict : Command.perform .lint world exclusion
            (arguments.first (.modulino, none)).settings arguments.roots =
            .ok ((lintProgress world exclusion (options.withModulino true) arguments.roots).report,
              false, (lintProgress world exclusion (options.withModulino true) arguments.roots).disk) :=
          rfl
        have plain : Command.perform .lint world exclusion arguments.settings arguments.roots =
            .ok ((lintProgress world exclusion options arguments.roots).report, false,
              (lintProgress world exclusion options arguments.roots).disk) := rfl
        have roots : (arguments.first (.modulino, none)).roots = arguments.roots := rfl
        have abreast := lintProgress_abreast world exclusion options arguments.roots
        simp only [bind, Except.bind, roots, strict, plain, LintProgress.report, abreast.log,
          abreast.commands, abreast.found, abreast.disk, abreast.broken]

/-- The rule on modulinos reports nothing that classification can lead to unless the rule on permissions
reports something too. So whatever a tree, its roots, the tools and the failures are, a lint that asks for it
ends as it does without it, with the same exit code, log and commands, and reports the same findings
besides those on modulinos. -/
theorem lint_gains_modulinos [PatternLibrary] (world : World) (exclusion : Exclusion)
    (options : LintOptions) (roots : List String) :
    let plain := options.withModulino false
    let strict := options.withModulino true
    (∀ lexicon probes path record, classify world lexicon probes path = .ok record →
        PropertyRule.modulino.check record ≠ [] → PropertyRule.permissions.check record ≠ []) ∧
      withoutModulino (lintFindings world exclusion strict roots) =
        lintFindings world exclusion plain roots ∧
      (∀ options, (lintProgress world exclusion options roots).out =
        String.join ((lintFindings world exclusion options roots).map Finding.shown)) ∧
      (lintProgress world exclusion plain roots).Abreast
        (lintProgress world exclusion strict roots) ∧
      (lintScripts world exclusion strict roots).result =
        (lintScripts world exclusion plain roots).result ∧
      ∀ verbose args,
        let asked := runCommandLine world (programFlags verbose ++ "lint" :: "--modulino" :: args)
        let unasked := runCommandLine world (programFlags verbose ++ "lint" :: args)
        asked = { unasked with out := asked.out } ∧ asked.ending.code = unasked.ending.code := by
  intro plain strict
  obtain ⟨abreast, findings⟩ := lintProgress_modulino world exclusion options roots
  refine ⟨?_, findings, fun options => out_lintProgress world exclusion options roots, abreast, ?_,
    ?_⟩
  · intro lexicon probes path record classified
    exact PropertyRule.permissions_of_modulino (classify_ok classified).1.toSound
  · simp only [lintScripts, LintProgress.report, plain, strict, abreast.found, abreast.broken]
  · intro verbose args asked unasked
    have runs : asked = { unasked with out := asked.out } := by
      simp only [asked, unasked, runCommandLine, readCommandLine_modulino]
      cases readCommandLine (programFlags verbose ++ "lint" :: args) with
      | error stop => rfl
      | ok invocation => exact invocation.run_withModulino world
    exact ⟨runs, by rw [runs]⟩

theorem lint_gains_modulinos_script :
    let world := World.ofDisk scriptDisk
    (∃ record, classify world .standard {} "deploy.sh" = .ok record ∧
        PropertyRule.modulino.check record ≠ [] ∧ PropertyRule.permissions.check record ≠ []) ∧
      (runCommandLine world ["lint", "--modulino", "deploy.sh"]).ending.code =
        (runCommandLine world ["lint", "deploy.sh"]).ending.code := by
  intro world
  have gains := lint_gains_modulinos world .standard {} ["deploy.sh"]
  have classified : classify world .standard {} "deploy.sh" = .ok _ :=
    classify_calm scriptDisk_lookup (by decide) scriptDisk_calm
  have reported : PropertyRule.modulino.check
      (((Record.ofEntry .standard "deploy.sh" 0o755).settle .standard {}
        [0x23, 0x21, 0x2F, 0x62, 0x69, 0x6E, 0x2F, 0x73, 0x68, 0x0D, 0x0A]).seeAll {}
        [0x23, 0x21, 0x2F, 0x62, 0x69, 0x6E, 0x2F, 0x73, 0x68, 0x0D, 0x0A]) ≠ [] := by
    decide +kernel
  exact ⟨⟨_, classified, reported, gains.1 _ _ _ _ classified reported⟩,
    (gains.2.2.2.2.2 false ["deploy.sh"]).2⟩

end ShellSurvey
