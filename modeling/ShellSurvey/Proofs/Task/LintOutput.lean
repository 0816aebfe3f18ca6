import ShellSurvey.Proofs.Console.Messages
import ShellSurvey.Proofs.Lint.Guarded

namespace ShellSurvey

/-- A finding whose message can be filled in. -/
def Finding.Describable (finding : Finding) : Prop := ∃ text, finding.describe = .ok text

theorem Finding.ReportsIn.describable {path : String} {finding : Finding}
    (here : finding.ReportsIn path) : finding.Describable := by
  obtain ⟨text, filled⟩ := here.filled
  rw [Describable, describe, filled]
  exact ⟨_, rfl⟩

theorem checkContent_reportIn (world : World) (record : Record) {lint : Lint}
    (reports : ReportIn record.path lint.findings) (rules : List ContentRule) :
    ReportIn record.path (checkContent world record lint rules).findings := by
  induction rules generalizing lint with
  | nil => exact reports
  | cons rule rules ih =>
    unfold checkContent ContentRule.check
    cases rule.applies record with
    | false => exact ih (reports.fold (.nil _))
    | true =>
      simp only [if_true]
      cases readLines world record.path with
      | ok lines => exact ih (reports.fold (rule.inspect_reportIn record lines))
      | error refusal =>
        cases refusal with
        | failed error =>
          exact reports.fold (.single (unreadableFinding_reportsIn record.path error))
        | nulInPath => exact reports

/-- Whatever is found in a script can be reported, even if the lint of it is broken off. -/
theorem lintRecord_reportIn (world : World) (options : LintOptions) (record : Record) :
    ReportIn record.path (lintRecord world options record).findings := by
  have properties := propertyFindings_reportIn options record
  have validity := checkValidity_reportIn world record
  unfold lintRecord
  split
  · dsimp only
    split
    · exact checkContent_reportIn _ record (properties.fold validity) _
    · exact properties.fold validity
  · exact .nil _

section

variable (world : World) (exclusion : Exclusion) (options : LintOptions)

/-- The findings that are reported on an observation. -/
def LintProgress.shows (progress : LintProgress) (observation : Observation) : List Finding :=
  if progress.broken.isSome || observation.failed then []
  else
    let lint := lintRecord { world with disk := progress.disk } options observation.record
    if lint.broken.isSome then [] else lint.findings

/-- The findings that are reported on some observations, one after another. -/
def LintProgress.showsAlong (progress : LintProgress) : List Observation → List Finding
  | [] => []
  | observation :: rest =>
    progress.shows world options observation ++
      (progress.take world options observation).showsAlong rest

/-- The findings that are reported below a root. -/
def LintProgress.showsBelow (progress : LintProgress) (root : String) : List Finding :=
  if progress.broken.isSome then []
  else
    let survey := surveyRoot { world with disk := progress.disk } exclusion options.probes root
    progress.showsAlong world options survey.observations

/-- The findings that are reported below some roots, one after another. -/
def LintProgress.showsBelowAll (progress : LintProgress) : List String → List Finding
  | [] => []
  | root :: rest =>
    progress.showsBelow world exclusion options root ++
      (progress.takeRoot world exclusion options root).showsBelowAll rest

/-- All findings that linting some roots reports. -/
def lintFindings (roots : List String) : List Finding :=
  (LintProgress.start world.disk).showsBelowAll world exclusion options roots

variable {world options}

theorem LintProgress.out_take (progress : LintProgress) (observation : Observation) :
    (progress.take world options observation).out =
      progress.out ++ String.join ((progress.shows world options observation).map Finding.shown) := by
  unfold take shows
  cases progress.broken.isSome with
  | true => simp
  | false =>
    cases observation.failed <;> simp

theorem LintProgress.out_foldl_take (progress : LintProgress) (observations : List Observation) :
    (observations.foldl (take world options) progress).out =
      progress.out ++
        String.join ((progress.showsAlong world options observations).map Finding.shown) := by
  induction observations generalizing progress with
  | nil => simp [showsAlong]
  | cons observation rest ih =>
    rw [List.foldl_cons, ih, out_take, showsAlong, List.map_append, String.join_append,
      String.append_assoc]

variable {exclusion}

theorem LintProgress.out_takeRoot (progress : LintProgress) (root : String) :
    (progress.takeRoot world exclusion options root).out =
      progress.out ++
        String.join ((progress.showsBelow world exclusion options root).map Finding.shown) := by
  unfold takeRoot showsBelow
  cases progress.broken.isSome with
  | true => simp
  | false =>
    simp only [Bool.false_eq_true, if_false]
    rw [out_foldl_take]

theorem LintProgress.out_foldl_takeRoot (progress : LintProgress) (roots : List String) :
    (roots.foldl (takeRoot world exclusion options) progress).out =
      progress.out ++
        String.join ((progress.showsBelowAll world exclusion options roots).map Finding.shown) := by
  induction roots generalizing progress with
  | nil => simp [showsBelowAll]
  | cons root rest ih =>
    rw [List.foldl_cons, ih, out_takeRoot, showsBelowAll, List.map_append, String.join_append,
      String.append_assoc]

theorem LintProgress.describable_shows (progress : LintProgress) (observation : Observation) :
    ∀ finding ∈ progress.shows world options observation, finding.Describable := by
  unfold shows
  split
  · exact List.forall_mem_nil _
  · dsimp only
    split
    · exact List.forall_mem_nil _
    · intro finding member
      exact (lintRecord_reportIn _ options observation.record finding member).describable

theorem LintProgress.describable_showsAlong (progress : LintProgress)
    (observations : List Observation) :
    ∀ finding ∈ progress.showsAlong world options observations, finding.Describable := by
  induction observations generalizing progress with
  | nil => exact List.forall_mem_nil _
  | cons observation rest ih =>
    exact List.forall_mem_append.mpr ⟨progress.describable_shows observation, ih _⟩

theorem LintProgress.describable_showsBelowAll (progress : LintProgress) (roots : List String) :
    ∀ finding ∈ progress.showsBelowAll world exclusion options roots, finding.Describable := by
  induction roots generalizing progress with
  | nil => exact List.forall_mem_nil _
  | cons root rest ih =>
    refine List.forall_mem_append.mpr ⟨?_, ih _⟩
    unfold showsBelow
    split
    · exact List.forall_mem_nil _
    · exact progress.describable_showsAlong _

end

/-- Findings that can be described are told by what they show. -/
theorem recounts_shown {findings : List Finding}
    (describable : ∀ finding ∈ findings, finding.Describable) :
    ∃ texts : List String, findings.map Finding.describe = texts.map .ok ∧
      Recounts (String.join (findings.map Finding.shown)).toList (texts.map String.toList) := by
  induction findings with
  | nil => exact ⟨[], rfl, .nil⟩
  | cons finding rest ih =>
    obtain ⟨⟨text, described⟩, later⟩ := List.forall_mem_cons.mp describable
    obtain ⟨texts, others, told⟩ := ih later
    have shown : finding.shown.toList =
        messageText finding.kind.severity false text.toList := by
      rw [Finding.shown, Finding.report, described]
      simp [Except.map, Except.toOption, sayIn, joinTexts, joinWith, ColourSettings.coloured]
    refine ⟨text :: texts, ?_, ?_⟩
    · rw [List.map_cons, described, others, List.map_cons]
    · rw [List.map_cons, String.join_cons, String.toList_append, shown, List.map_cons]
      exact told.cons finding.kind.severity text.toList

/-- Whatever a tree, the tools and the options are, the output of linting tells each finding that is
reported: there are as many headings as findings, all other lines are set in, and without the margin the
lines from one heading to the next are the description of a finding. -/
theorem lint_output_recounts (world : World) (exclusion : Exclusion) (options : LintOptions)
    (roots : List String) :
    ∃ texts : List String,
      (lintFindings world exclusion options roots).map Finding.describe = texts.map .ok ∧
      Recounts (lintScripts world exclusion options roots).out.toList
        (texts.map String.toList) := by
  have out : (lintScripts world exclusion options roots).out =
      String.join ((lintFindings world exclusion options roots).map Finding.shown) := by
    have along : (lintProgress world exclusion options roots).out =
        "" ++ String.join ((lintFindings world exclusion options roots).map Finding.shown) :=
      LintProgress.out_foldl_takeRoot (.start world.disk) roots
    rw [String.empty_append] at along
    exact along
  rw [out]
  exact recounts_shown (LintProgress.describable_showsBelowAll _ roots)

end ShellSurvey
