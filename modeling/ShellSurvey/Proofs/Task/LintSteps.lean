import ShellSurvey.Proofs.Lint.Guarded
import ShellSurvey.Proofs.Task.Passable

namespace ShellSurvey

section

variable (world : World) (options : LintOptions)

/-- The disk after a report is linted. -/
def diskAfter (disk : Disk) (observation : Observation) : Disk :=
  if observation.failed then disk
  else (lintRecord { world with disk := disk } options observation.record).disk

/-- Reports as they are linted, each with the disk as it is by then. -/
def lintAlong (disk : Disk) : List Observation → List (Disk × Observation)
  | [] => []
  | observation :: rest =>
    (disk, observation) :: lintAlong (diskAfter world options disk observation) rest

/-- What is reported below a root on some disk. -/
def reportsOn (exclusion : Exclusion) (disk : Disk) (root : String) : List Observation :=
  reportsBelow { world with disk := disk } exclusion options.probes [root]

/-- Some roots as they are linted, each with the disk that the roots before it leave. -/
def lintRoots (exclusion : Exclusion) (disk : Disk) : List String → List (Disk × String)
  | [] => []
  | root :: rest =>
    let reports := reportsOn world options exclusion disk root
    (disk, root) :: lintRoots exclusion (reports.foldl (diskAfter world options) disk) rest

/-- All reports below some roots as they are linted. -/
def lintSteps (exclusion : Exclusion) (disk : Disk) (roots : List String) :
    List (Disk × Observation) :=
  (lintRoots world options exclusion disk roots).flatMap fun start =>
    lintAlong world options start.1 (reportsOn world options exclusion start.1 start.2)

/-- What is found at a step. -/
def stepFindings (step : Disk × Observation) : List Finding :=
  if step.2.failed then []
  else (lintRecord { world with disk := step.1 } options step.2.record).findings

/-- A lint under way, and after it took some more steps. -/
structure LintProgress.Takes (before : LintProgress) (steps : List (Disk × Observation))
    (after : LintProgress) : Prop where
  unbroken : after.broken = none
  out : after.out =
    before.out ++ String.join (steps.flatMap fun step =>
      (stepFindings world options step).map Finding.shown)
  found : after.found =
    (before.found || steps.any fun step =>
      step.2.failed || !(stepFindings world options step).isEmpty)

/-- No guard stops the lint at a step, nor the report of what is found. -/
def StepGuarded (step : Disk × Observation) : Prop :=
  step.2.failed = true ∨
    lintStrictly { world with disk := step.1 } options step.2.record =
        .ok (lintRecord { world with disk := step.1 } options step.2.record) ∧
      reportStrictly (stepFindings world options step) =
        .ok ((stepFindings world options step).map Finding.shown)

variable {world options} in
theorem LintProgress.Takes.append {first second third : LintProgress}
    {steps more : List (Disk × Observation)} (one : first.Takes world options steps second)
    (two : second.Takes world options more third) :
    first.Takes world options (steps ++ more) third where
  unbroken := two.unbroken
  out := by rw [two.out, one.out, List.flatMap_append, String.join_append, String.append_assoc]
  found := by rw [two.found, one.found, List.any_append, Bool.or_assoc]

variable {world} (answers : world.ToolsAnswer)
include answers

theorem LintProgress.take_step {progress : LintProgress} (unbroken : progress.broken = none)
    {observation : Observation}
    (linted : observation.failed = true ∨ NulFree observation.record.path) :
    progress.Takes world options [(progress.disk, observation)]
        (progress.take world options observation) ∧
      (progress.take world options observation).disk =
        diskAfter world options progress.disk observation ∧
      (diskAfter world options progress.disk observation).Within progress.disk ∧
      StepGuarded world options (progress.disk, observation) := by
  unfold take diskAfter
  rw [unbroken]
  cases failed : observation.failed with
  | true =>
    simp only [Option.isSome_none, Bool.false_eq_true, if_false, if_true]
    refine ⟨⟨rfl, ?_, ?_⟩, trivial, .refl _, Or.inl failed⟩
    · simp [stepFindings, failed]
    · simp [failed]
  | false =>
    have free : NulFree observation.record.path := by
      rw [failed] at linted
      exact linted.resolve_left Bool.false_ne_true
    have answersHere : World.ToolsAnswer { world with disk := progress.disk } := answers
    obtain ⟨sound, strictly⟩ := lintRecord_sound answersHere options free
    have found : stepFindings world options (progress.disk, observation) =
        (lintRecord { world with disk := progress.disk } options observation.record).findings := by
      simp [stepFindings, failed]
    simp only [Option.isSome_none, Bool.false_eq_true, if_false, sound.unbroken]
    refine ⟨⟨rfl, ?_, ?_⟩, trivial, sound.disk, Or.inr ⟨strictly, ?_⟩⟩
    · simp [found]
    · simp [failed, found]
    · rw [found]
      exact reportStrictly_eq sound.findings

theorem LintProgress.foldl_take {progress : LintProgress} (unbroken : progress.broken = none)
    {observations : List Observation}
    (linted : ∀ observation ∈ observations,
      observation.failed = true ∨ NulFree observation.record.path) :
    progress.Takes world options (lintAlong world options progress.disk observations)
        (observations.foldl (take world options) progress) ∧
      (observations.foldl (take world options) progress).disk =
        observations.foldl (diskAfter world options) progress.disk ∧
      (observations.foldl (diskAfter world options) progress.disk).Within progress.disk ∧
      ∀ step ∈ lintAlong world options progress.disk observations,
        StepGuarded world options step := by
  induction observations generalizing progress with
  | nil =>
    exact ⟨⟨unbroken, by simp [lintAlong], by simp [lintAlong]⟩, rfl, .refl _,
      List.forall_mem_nil _⟩
  | cons observation rest ih =>
    obtain ⟨lintedHere, lintedLater⟩ := List.forall_mem_cons.mp linted
    obtain ⟨first, disk, within, guarded⟩ := take_step options answers unbroken lintedHere
    obtain ⟨later, laterDisk, laterWithin, laterGuarded⟩ := ih first.unbroken lintedLater
    rw [disk] at later laterDisk laterWithin laterGuarded
    rw [List.foldl_cons, List.foldl_cons, lintAlong]
    exact ⟨first.append later, laterDisk, laterWithin.trans within,
      List.forall_mem_cons.mpr ⟨guarded, laterGuarded⟩⟩

/-- A root is surveyed as a whole, and then its reports are linted. -/
theorem LintProgress.takeRoot_steps (exclusion : Exclusion) {progress : LintProgress}
    (unbroken : progress.broken = none) {root : String} 
    (passable : World.Passable { world with disk := progress.disk } [root]) :
    let reports := reportsOn world options exclusion progress.disk root
    SurveyCompletes { world with disk := progress.disk } exclusion options.probes [root] ∧
      progress.Takes world options (lintAlong world options progress.disk reports)
        (progress.takeRoot world exclusion options root) ∧
      (progress.takeRoot world exclusion options root).disk =
        reports.foldl (diskAfter world options) progress.disk ∧
      (reports.foldl (diskAfter world options) progress.disk).Within progress.disk ∧
      ∀ step ∈ lintAlong world options progress.disk reports, StepGuarded world options step := by
  intro reports
  have completes := survey_completes passable exclusion options.probes
  have surveyed : surveyRoot { world with disk := progress.disk } exclusion options.probes root =
      ⟨reports, none⟩ := by
    rw [surveyRoot_eq]
    exact completes.whole
  have linted : ∀ observation ∈ reports,
      observation.failed = true ∨ NulFree observation.record.path :=
    fun _ member => failed_or_nulFree passable member
  obtain ⟨along, disk, within, guarded⟩ := foldl_take options answers unbroken linted
  have unended (after : LintProgress) (ended : after.broken = none) :
      { after with broken := after.broken.or none } = after := by
    cases after
    cases ended
    rfl
  have whole : progress.takeRoot world exclusion options root =
      reports.foldl (take world options) progress := by
    clear_value reports
    unfold takeRoot
    rw [unbroken, surveyed]
    exact unended _ along.unbroken
  rw [whole]
  exact ⟨completes, along, disk, within, guarded⟩

omit answers

variable (world) in
/-- How linting some roots goes where nothing breaks it off. -/
structure LintCompletes (exclusion : Exclusion) (before after : LintProgress)
    (roots : List String) : Prop where
  surveys : ∀ start ∈ lintRoots world options exclusion before.disk roots,
    SurveyCompletes { world with disk := start.1 } exclusion options.probes [start.2]
  takes : before.Takes world options (lintSteps world options exclusion before.disk roots) after
  guarded : ∀ step ∈ lintSteps world options exclusion before.disk roots,
    StepGuarded world options step

include answers

theorem LintProgress.foldl_takeRoot (exclusion : Exclusion) {progress : LintProgress}
    (unbroken : progress.broken = none) {roots : List String}
    (passable : World.Passable { world with disk := progress.disk } roots) :
    LintCompletes world options exclusion progress
      (roots.foldl (takeRoot world exclusion options) progress) roots := by
  induction roots generalizing progress with
  | nil =>
    exact ⟨List.forall_mem_nil _,
      ⟨unbroken, by simp [lintSteps, lintRoots], by simp [lintSteps, lintRoots]⟩,
      List.forall_mem_nil _⟩
  | cons root rest ih =>
    obtain ⟨here, later⟩ := passable.of_cons
    obtain ⟨surveyed, first, disk, within, guarded⟩ :=
      takeRoot_steps options answers exclusion unbroken here
    rw [← disk] at within
    have second := ih first.unbroken (later.of_within within)
    have steps : lintSteps world options exclusion progress.disk (root :: rest) =
        lintAlong world options progress.disk
            (reportsOn world options exclusion progress.disk root) ++
          lintSteps world options exclusion (progress.takeRoot world exclusion options root).disk
            rest := by
      rw [lintSteps, lintRoots, List.flatMap_cons, ← disk]
      rfl
    refine ⟨?_, ?_, ?_⟩
    · rw [lintRoots, ← disk]
      exact List.forall_mem_cons.mpr ⟨surveyed, second.surveys⟩
    · rw [steps, List.foldl_cons]
      exact first.append second.takes
    · rw [steps]
      exact List.forall_mem_append.mpr ⟨guarded, second.guarded⟩

end

/-- Linting some roots takes all their steps. -/
theorem lintProgress_completes {world : World} (answers : world.ToolsAnswer) {roots : List String}
    (passable : world.Passable roots) (exclusion : Exclusion) (options : LintOptions) :
    LintCompletes world options exclusion (.start world.disk)
      (lintProgress world exclusion options roots) roots :=
  LintProgress.foldl_takeRoot options answers exclusion rfl passable

end ShellSurvey
