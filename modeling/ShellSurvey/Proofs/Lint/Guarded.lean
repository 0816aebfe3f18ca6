import ShellSurvey.Proofs.Disk.Removal
import ShellSurvey.Proofs.Lint.Findings
import ShellSurvey.Proofs.Lint.Kinds
import ShellSurvey.Proofs.Lint.ToolRuns
import ShellSurvey.Task.Lint

namespace ShellSurvey

set_option maxRecDepth 2000 in
theorem shebangFlags_asksFor : Kinds.shebangFlags.AsksFor ["interpreter"] :=
  .ofList rfl (by decide +kernel)

set_option maxRecDepth 2000 in
theorem modulino_asksFor : Kinds.modulino.AsksFor [] := .ofList rfl (by decide +kernel)

theorem shebangFindings_reportIn (record : Record) :
    ReportIn record.path (shebangFindings record) := by
  have missing : Kinds.missingShebang.AsksFor [] := .ofList rfl (by decide +kernel)
  have relative : Kinds.relativeShebang.AsksFor [] := .ofList rfl (by decide +kernel)
  have commented : Kinds.commentedShebang.AsksFor [] := .ofList rfl (by decide +kernel)
  have flipped : Kinds.flippedShebang.AsksFor [] := .ofList rfl (by decide +kernel)
  unfold shebangFindings
  split
  · exact .single missing.inFile
  · split
    · exact .single relative.inFile
    · split
      · exact .single commented.inFile
      · split
        · exact .single (shebangFlags_asksFor.inFileWith rfl)
        · exact .nil _
  · exact .single flipped.inFile

theorem PropertyRule.check_reportIn (rule : PropertyRule) (record : Record) :
    ReportIn record.path (rule.check record) := by
  unfold PropertyRule.check
  cases rule with
  | finalEol =>
    have asks : Kinds.missingFinalEol.AsksFor [] := .ofList rfl (by decide +kernel)
    exact asks.reportIf _ _
  | carriageReturn =>
    have asks : Kinds.crLineEnding.AsksFor [] := .ofList rfl (by decide +kernel)
    exact asks.reportIf _ _
  | bom =>
    have asks : Kinds.leadingBom.AsksFor [] := .ofList rfl (by decide +kernel)
    exact asks.reportIf _ _
  | shebang =>
    dsimp only
    split
    · exact .nil _
    · exact shebangFindings_reportIn record
  | permissions =>
    have sourceable : Kinds.sourceableExecutable.AsksFor [] := .ofList rfl (by decide +kernel)
    have ambiguous : Kinds.ambiguousLaunch.AsksFor [] := .ofList rfl (by decide +kernel)
    dsimp only
    split
    · exact .single sourceable.inFile
    · exact ambiguous.reportIf _ _
  | modulino => exact modulino_asksFor.reportIf _ _

theorem ValidationFailure.finding_reportsIn (failure : ValidationFailure) (path : String) :
    (failure.finding path).ReportsIn path := by
  have unknown : Kinds.unknownValidator.AsksFor ["interpreter"] := .ofList rfl (by decide +kernel)
  have missing : Kinds.interpreterNotFound.AsksFor ["executable"] := .ofList rfl (by decide +kernel)
  have rejected : Kinds.rejectedScript.AsksFor ["interpreter", "output"] := .ofList rfl (by decide +kernel)
  cases failure with
  | unknownInterpreter interpreter script => exact unknown.inFileWith rfl
  | toolMissing executable script => exact missing.inFileWith rfl
  | rejected tool output => exact rejected.inFileWith rfl

theorem checkValidity_reportIn (world : World) (record : Record) :
    ReportIn record.path (checkValidity world record).findings := by
  unfold checkValidity Validation.check
  split
  · cases (validate world record).outcome with
    | valid | interrupted => exact .nil _
    | failed failure => exact .single (failure.finding_reportsIn record.path)
  · exact .nil _

theorem unreadableFinding_reportsIn (path : String) (error : FileError) :
    (unreadableFinding path error).ReportsIn path := by
  have asks : Kinds.unreadableScript.AsksFor ["error"] := .ofList rfl (by decide +kernel)
  exact asks.inFileWith rfl

/-- What comes before folding in a list of findings on traps. -/
def trapReports (record : Record) (lines : List Line) : List Finding :=
  ((statements lines).filter fun statement => isExec statement.2).map
      (fun statement => Kinds.execTraps.atLine record.path statement.1) ++
    dialectFindings record ((statements lines).map Prod.snd)

theorem trapReports_reportIn (record : Record) (lines : List Line) :
    ReportIn record.path (trapReports record lines) := by
  have exec : Kinds.execTraps.AsksFor [] := .ofList rfl (by decide +kernel)
  have zsh : Kinds.zshListTraps.AsksFor [] := .ofList rfl (by decide +kernel)
  have bash : Kinds.bashErrtrace.AsksFor [] := .ofList rfl (by decide +kernel)
  have subshell : Kinds.subshellTraps.AsksFor [] := .ofList rfl (by decide +kernel)
  refine ReportIn.append ?_ ?_
  · intro finding member
    obtain ⟨statement, _, rfl⟩ := List.mem_map.mp member
    exact exec.atLine statement.1
  · unfold dialectFindings
    dsimp only
    split
    · exact zsh.reportIf _ _
    · split
      · exact bash.reportIf _ _
      · exact .single subshell.inFile

theorem ReportIn.fold {path : String} {findings more : List Finding}
    (first : ReportIn path findings) (second : ReportIn path more) :
    ReportIn path (foldFindings findings more) :=
  (appendFindings_reportIn first second).2

theorem propertyFindings_reportIn (options : LintOptions) (record : Record) :
    ReportIn record.path (propertyFindings options record) :=
  propertyFindings_induction (.nil _)
    (fun _ rule first => first.fold (rule.check_reportIn record)) options

theorem trapFindings_eq (record : Record) (lines : List Line) :
    trapFindings record lines =
      if setsTrap ((statements lines).map Prod.snd) then foldFindings [] (trapReports record lines)
      else [] := rfl

theorem ContentRule.inspect_reportIn (rule : ContentRule) (record : Record) (lines : List Line) :
    ReportIn record.path (rule.inspect record lines) := by
  have ifs : Kinds.ifsNotReset.AsksFor [] := .ofList rfl (by decide +kernel)
  have safety : Kinds.noSafetyFlags.AsksFor [] := .ofList rfl (by decide +kernel)
  cases rule with
  | ifs =>
    intro finding member
    obtain ⟨line, _, rfl⟩ := List.mem_map.mp member
    exact ifs.atLine line
  | safety =>
    intro finding member
    obtain ⟨line, _, rfl⟩ := List.mem_map.mp member
    exact safety.atLine line
  | traps =>
    have traps : (ContentRule.traps).inspect record lines = trapFindings record lines := rfl
    rw [traps, trapFindings_eq]
    split
    · exact (ReportIn.nil _).fold (trapReports_reportIn record lines)
    · exact .nil _

/-- What stops a guarded lint. -/
inductive LintMishap where
  | clash (cause : LocationClash)
  | badTemplate (flaw : TemplateFlaw)
  | interrupted (cause : Interruption)
  deriving DecidableEq, Repr

def foldStrictly (findings more : List Finding) : Except LintMishap (List Finding) :=
  match appendFindings findings more with
  | (_, some cause) => .error (.clash cause)
  | (sum, none) => .ok sum

def propertyFindingsStrictly (options : LintOptions) (record : Record) :
    Except LintMishap (List Finding) :=
  options.propertyRules.foldlM (fun findings rule => foldStrictly findings (rule.check record)) []

def ContentRule.inspectStrictly (rule : ContentRule) (record : Record) (lines : List Line) :
    Except LintMishap (List Finding) :=
  match rule with
  | .traps =>
    if setsTrap ((statements lines).map Prod.snd) then foldStrictly [] (trapReports record lines)
    else .ok []
  | rule => .ok (rule.inspect record lines)

def checkContentStrictly (world : World) (record : Record) (lint : Lint) :
    List ContentRule → Except LintMishap Lint
  | [] => .ok lint
  | rule :: rules =>
    if rule.applies record then
      match readLines world record.path with
      | .ok lines => do
        let findings ← foldStrictly lint.findings (← rule.inspectStrictly record lines)
        checkContentStrictly world record { lint with findings := findings } rules
      | .error (.failed error) => do
        let findings ← foldStrictly lint.findings [unreadableFinding record.path error]
        pure { lint with
          findings := findings
          log := lint.log ++ [unreadableNote record.path error] }
      | .error .nulInPath => .error (.interrupted (.refused .nulInPath))
    else checkContentStrictly world record lint rules

def lintStrictly (world : World) (options : LintOptions) (record : Record) :
    Except LintMishap Lint :=
  if record.lintable then do
    let properties ← propertyFindingsStrictly options record
    let validity := checkValidity world record
    let disk := afterTool world.disk record.path validity.removed
    match validity.broken with
    | some cause => throw (.interrupted cause)
    | none =>
      let lint : Lint :=
        { findings := ← foldStrictly properties validity.findings
          log := []
          commands := validity.command.toList
          disk := disk
          broken := none }
      if validity.findings.isEmpty then
        checkContentStrictly { world with disk := disk } record lint [.ifs, .safety, .traps]
      else pure lint
  else pure ⟨[], [], [], world.disk, none⟩

def reportStrictly (findings : List Finding) : Except LintMishap (List String) :=
  findings.mapM fun finding => (finding.report {}).mapError .badTemplate

theorem foldStrictly_eq {path : String} {findings more : List Finding}
    (first : ReportIn path findings) (second : ReportIn path more) :
    foldStrictly findings more = .ok (foldFindings findings more) := by
  obtain ⟨noClash, _⟩ := appendFindings_reportIn first second
  unfold foldStrictly foldFindings
  cases folded : appendFindings findings more with
  | mk sum clash =>
    rw [folded] at noClash
    have none : clash = none := noClash
    rw [none]

theorem propertyFindingsStrictly_eq (options : LintOptions) (record : Record) :
    propertyFindingsStrictly options record = .ok (propertyFindings options record) := by
  have along (rules : List PropertyRule) {findings : List Finding}
      (first : ReportIn record.path findings) :
      rules.foldlM (fun findings rule => foldStrictly findings (rule.check record)) findings =
        Except.ok (rules.foldl (fun findings rule => foldFindings findings (rule.check record))
          findings) := by
    induction rules generalizing findings with
    | nil => rfl
    | cons rule rest ih =>
      have here := rule.check_reportIn record
      rw [List.foldlM_cons, foldStrictly_eq first here]
      exact ih (first.fold here)
  exact along options.propertyRules (.nil _)

theorem ContentRule.inspectStrictly_eq (rule : ContentRule) (record : Record) (lines : List Line) :
    rule.inspectStrictly record lines = .ok (rule.inspect record lines) := by
  cases rule with
  | ifs => rfl
  | safety => rfl
  | traps =>
    have traps : (ContentRule.traps).inspect record lines = trapFindings record lines := rfl
    rw [traps, trapFindings_eq, inspectStrictly]
    split
    · exact foldStrictly_eq (.nil _) (trapReports_reportIn record lines)
    · rfl

/-- A path without a NUL can be asked for its lines. -/
theorem readLines_error {world : World} {path : String} {refusal : Refusal} (free : NulFree path)
    (refused : readLines world path = .error refusal) : ∃ error, refusal = .failed error := by
  cases refusal with
  | failed error => exact ⟨error, rfl⟩
  | nulInPath =>
    have normalFree : holdsNul (Path.ofText path).text = false :=
      Path.nulFree_text (Path.nulFree_ofText free)
    unfold readLines World.read at refused
    split at refused
    · cases refused
    · unfold Disk.content at refused
      split at refused <;> cases refused
      next noPath =>
      rw [Disk.holdsNul_of_lookup noPath] at normalFree
      cases normalFree

/-- A lint that went through: its findings can be reported, and the disk has lost entries at most. -/
structure Lint.Sound (path : String) (disk : Disk) (lint : Lint) : Prop where
  findings : ReportIn path lint.findings
  disk : lint.disk.Within disk
  unbroken : lint.broken = none

theorem checkContent_sound {world : World} {record : Record} (free : NulFree record.path)
    {disk : Disk} {lint : Lint} (sound : lint.Sound record.path disk) (rules : List ContentRule) :
    (checkContent world record lint rules).Sound record.path disk ∧
      checkContentStrictly world record lint rules = .ok (checkContent world record lint rules) := by
  induction rules generalizing lint with
  | nil => exact ⟨sound, rfl⟩
  | cons rule rules ih =>
    unfold checkContent checkContentStrictly ContentRule.check
    cases applies : rule.applies record with
    | false =>
      simp only [Bool.false_eq_true, if_false]
      exact ih sound
    | true =>
      simp only [if_true]
      cases read : readLines world record.path with
      | ok lines =>
        have here := rule.inspect_reportIn record lines
        simp only [Except.map, ContentRule.inspectStrictly_eq]
        have next : Lint.Sound record.path disk
            { lint with findings := foldFindings lint.findings (rule.inspect record lines) } :=
          ⟨sound.findings.fold here, sound.disk, sound.unbroken⟩
        obtain ⟨later, same⟩ := ih next
        refine ⟨later, ?_⟩
        rw [← same]
        simp only [bind, Except.bind, foldStrictly_eq sound.findings here]
      | error refusal =>
        obtain ⟨error, rfl⟩ := readLines_error free read
        have here := ReportIn.single (unreadableFinding_reportsIn record.path error)
        refine ⟨⟨sound.findings.fold here, sound.disk, sound.unbroken⟩, ?_⟩
        simp only [Except.map, bind, Except.bind, foldStrictly_eq sound.findings here]
        rfl

theorem afterTool_within (disk : Disk) (path : String) (removed : Bool) :
    (afterTool disk path removed).Within disk := by
  unfold afterTool
  split
  · cases left : disk.remove path with
    | ok rest => exact Disk.within_of_remove left
    | error refusal => exact .refl _
  · exact .refl _

/-- No guard stops the lint of a path without a NUL where the tools answer. -/
theorem lintRecord_sound {world : World} (answers : world.ToolsAnswer) (options : LintOptions)
    {record : Record} (free : NulFree record.path) :
    (lintRecord world options record).Sound record.path world.disk ∧
      lintStrictly world options record = .ok (lintRecord world options record) := by
  unfold lintRecord lintStrictly
  split
  · have properties := propertyFindings_reportIn options record
    have validity := checkValidity_reportIn world record
    have within := afterTool_within world.disk record.path (checkValidity world record).removed
    simp only [propertyFindingsStrictly_eq, bind, Except.bind, checkValidity_answered answers free,
      foldStrictly_eq properties validity, ValidityCheck.passed, Option.isNone_none, Bool.and_true]
    split
    · exact checkContent_sound free ⟨properties.fold validity, within, rfl⟩ _
    · exact ⟨⟨properties.fold validity, within, rfl⟩, rfl⟩
  · exact ⟨⟨.nil _, .refl _, rfl⟩, rfl⟩

theorem Finding.ReportsIn.report {path : String} {finding : Finding} (here : finding.ReportsIn path) :
    finding.report {} = .ok finding.shown := by
  obtain ⟨text, filled⟩ := here.filled
  have reported : ∃ shown, finding.report {} = .ok shown := by
    unfold Finding.report Finding.describe
    rw [filled]
    exact ⟨_, rfl⟩
  obtain ⟨shown, reported⟩ := reported
  rw [Finding.shown, reported]
  rfl

theorem reportStrictly_eq {path : String} {findings : List Finding}
    (here : ReportIn path findings) : reportStrictly findings = .ok (findings.map Finding.shown) := by
  unfold reportStrictly
  induction findings with
  | nil => rfl
  | cons finding rest ih =>
    obtain ⟨first, later⟩ := List.forall_mem_cons.mp here
    rw [List.mapM_cons, first.report, ih later]
    rfl

end ShellSurvey
