import ShellSurvey.Proofs.Classify.LineEnds
import ShellSurvey.Proofs.Disk.Vacancy
import ShellSurvey.Proofs.Lint.Kinds
import ShellSurvey.Proofs.Lint.Properties
import ShellSurvey.Proofs.Survey.Observe

namespace ShellSurvey

namespace Kinds

/-- What is reported of the ends of lines. -/
def ofLineEnds : List FindingKind := [missingFinalEol, crLineEnding]

end Kinds

/-- But for findings on the ends of lines, a rule reports the same of a record that says nothing about
them. -/
theorem PropertyRule.filter_check_endless (rule : PropertyRule) (record : Record) :
    (rule.check record).filter (fun finding => finding.kind ∉ Kinds.ofLineEnds) =
      (rule.check record.endless).filter fun finding => finding.kind ∉ Kinds.ofLineEnds := by
  have nothing {rule : PropertyRule} (ends : ∀ kind ∈ rule.kinds, kind ∈ Kinds.ofLineEnds) :
      (rule.check record).filter (fun finding => finding.kind ∉ Kinds.ofLineEnds) = [] := by
    rw [List.filter_eq_nil_iff]
    intro finding member
    simpa using ends _ (rule.check_kinds record finding member)
  cases rule with
  | finalEol => exact nothing (by decide)
  | carriageReturn => exact nothing (by decide)
  | bom | shebang | permissions | modulino => rfl

theorem checkContent_endless (world : World) (record : Record) (lint : Lint)
    (rules : List ContentRule) :
    checkContent world record.endless lint rules = checkContent world record lint rules := by
  have same (rule : ContentRule) : rule.check world record.endless = rule.check world record := by
    cases rule <;> rfl
  induction rules generalizing lint with
  | nil => rfl
  | cons rule rules ih =>
    unfold checkContent
    rw [same]
    cases rule.check world record with
    | ok findings => exact ih _
    | error refusal => cases refusal <;> rfl

/-- What is found beyond the properties of a script does not depend on the ends of its lines. -/
theorem lintBeyond_endless (world : World) (record : Record) :
    lintBeyond world record.endless = lintBeyond world record := by
  have validity : checkValidity world record.endless = checkValidity world record := rfl
  unfold lintBeyond
  rw [validity]
  simp only [checkContent_endless]
  rfl

/-- Tools that run alike on a script validate it alike. -/
theorem checkValidity_congr {world other : World} {record : Record}
    (verdicts : ∀ program command, ValidatesAt command record.path →
      other.launch program command = world.launch program command) :
    checkValidity other record = checkValidity world record := by
  have same : validate other record = validate world record := by
    unfold validate
    dsimp only
    cases known : Validator.forInterpreter? record.interpreterName with
    | none => rfl
    | some validator =>
      dsimp only
      rw [verdicts _ _ ⟨record.interpreterName, validator, known, rfl⟩]
  unfold checkValidity
  rw [same]

/-- A lint on another disk. -/
def Lint.onto (lint : Lint) (disk : Disk) : Lint := { lint with disk := disk }

theorem checkContent_congr {world other : World} {record : Record} {rules : List ContentRule}
    (same : ∀ rule ∈ rules, rule.check other record = rule.check world record) (lint : Lint)
    (disk : Disk) :
    checkContent other record (lint.onto disk) rules =
      (checkContent world record lint rules).onto disk := by
  induction rules generalizing lint with
  | nil => rfl
  | cons rule rules ih =>
    obtain ⟨here, later⟩ := List.forall_mem_cons.mp same
    unfold checkContent
    rw [here]
    cases rule.check world record with
    | ok findings => exact ih later { lint with findings := foldFindings lint.findings findings }
    | error refusal => cases refusal <;> rfl

section

variable {world other : World} {path : String} {content : Bytes} {mode : Nat}
  (pair : world.Returned other path content mode) (noReturn : carriageReturn ∉ content)
include pair

/-- A script is read as the same lines, or cannot be read any more because the tool took it away. -/
theorem World.Returned.content_afterTool (removed : Bool) :
    let left := (afterTool world.disk path removed).content (Path.ofText path).text
    let otherLeft := (afterTool other.disk path removed).content (Path.ofText path).text
    left = .ok content ∧ otherLeft = .ok (withReturns content) ∨
      ∃ refusal, left = .error refusal ∧ otherLeft = .error refusal := by
  cases removed with
  | false =>
    exact Or.inl ⟨Disk.content_normalForm pair.file, Disk.content_normalForm pair.returned⟩
  | true =>
    obtain ⟨rest, gone, unread⟩ := Disk.content_of_remove pair.file
    obtain ⟨otherRest, otherGone, otherUnread⟩ := Disk.content_of_remove pair.returned
    refine Or.inr ⟨.failed (.system .notFound (Path.ofText path).text), ?_, ?_⟩
    · rw [afterTool, if_pos rfl, gone]
      exact unread
    · rw [afterTool, if_pos rfl, otherGone]
      exact otherUnread

include noReturn

theorem World.Returned.readLines (removed : Bool) :
    readLines { other with disk := afterTool other.disk path removed } path =
      readLines { world with disk := afterTool world.disk path removed } path := by
  unfold ShellSurvey.readLines World.read
  rw [pair.faults]
  cases world.faults .content path with
  | some error => rfl
  | none =>
    rcases pair.content_afterTool removed with ⟨read, otherRead⟩ | ⟨refusal, unread, otherUnread⟩
    · dsimp only
      rw [read, otherRead]
      exact congrArg Except.ok (splitLines_decodeLossy_precede noReturn)
    · dsimp only
      rw [unread, otherUnread]

variable (verdicts : ∀ program command, ValidatesAt command path →
  other.launch program command = world.launch program command)
include verdicts

/-- A record of which nothing is said about the ends of lines is linted alike. -/
theorem World.Returned.lintRecord {record : Record} (known : record.path = path)
    (options : LintOptions) :
    ∃ disk, lintRecord other options record = (lintRecord world options record).onto disk := by
  subst known
  have validity := checkValidity_congr verdicts
  have lines := pair.readLines noReturn (checkValidity world record).removed
  have same (rule : ContentRule) :
      rule.check { other with
          disk := afterTool other.disk record.path (checkValidity world record).removed } record =
        rule.check { world with
          disk := afterTool world.disk record.path (checkValidity world record).removed } record := by
    unfold ContentRule.check
    rw [lines]
  cases lintable : record.lintable with
  | false =>
    unfold ShellSurvey.lintRecord
    rw [lintable, if_neg Bool.false_ne_true, if_neg Bool.false_ne_true]
    exact ⟨other.disk, rfl⟩
  | true =>
    have course : (validityCourse other options record).lint =
        (validityCourse world options record).lint.onto
          (afterTool other.disk record.path (checkValidity world record).removed) := by
      simp only [validityCourse, Lint.onto, validity]
    rw [lintRecord_eq other options lintable, lintRecord_eq world options lintable, validity, course]
    refine ⟨afterTool other.disk record.path (checkValidity world record).removed, ?_⟩
    split
    · exact checkContent_congr (fun rule _ => same rule) _ _
    · rfl

end

/-- Two lints that agree on all but the findings on the ends of lines. -/
structure Lint.SameButEnds (lint other : Lint) : Prop where
  findings : lint.findings.filter (fun finding => finding.kind ∉ Kinds.ofLineEnds) =
    other.findings.filter fun finding => finding.kind ∉ Kinds.ofLineEnds
  log : lint.log = other.log
  commands : lint.commands = other.commands
  broken : lint.broken = other.broken

/-- What is found of a record is what is found without what it says about the ends of lines. -/
theorem lintRecord_sameButEnds (world : World) (options : LintOptions) (record : Record) :
    (lintRecord world options record).SameButEnds (lintRecord world options record.endless) := by
  cases lintable : record.lintable with
  | false =>
    unfold lintRecord
    rw [lintable, show record.endless.lintable = false from lintable]
    exact ⟨rfl, rfl, rfl, rfl⟩
  | true =>
    rw [lintRecord_after world options lintable,
      lintRecord_after world options (show record.endless.lintable = true from lintable),
      lintBeyond_endless]
    have properties := funext fun rule => PropertyRule.filter_check_endless rule record
    refine ⟨?_, rfl, rfl, rfl⟩
    simp only [Lint.after, List.filter_append, List.filter_flatMap]
    rw [properties]

/-- Whether the lines of a file end with line feeds or with carriage returns and line feeds, its record
is the same but for what it says about that, and so are the findings on it, if the tools run alike on
both. -/
theorem classify_lint_withReturns {world other : World} {path : String} {content : Bytes} {mode : Nat}
    (pair : world.Returned other path content mode) (noReturn : carriageReturn ∉ content)
    (verdicts : ∀ program command, ValidatesAt command path →
      other.launch program command = world.launch program command) (probes : Probes) :
    EndsAlike Eq Record.SameButEnds (classify world .standard probes path)
        (classify other .standard probes path) ∧
      (world.Calm path → ∃ record, classify world .standard probes path = .ok record) ∧
      ∀ options record twin, classify world .standard probes path = .ok record →
        classify other .standard probes path = .ok twin →
        Lint.SameButEnds (lintRecord world options record) (lintRecord other options twin) := by
  have alike := pair.classify probes
  refine ⟨alike, fun calm => classify_completes pair.file calm .standard probes, ?_⟩
  intro options record twin classified otherClassified
  rw [classified, otherClassified] at alike
  have onPath : record.path = path := by
    have told := (tellsOf_classify world .standard probes path).onPath
    rwa [classified] at told
  have same : record.endless = twin.endless := by
    cases alike with
    | complete same => exact same
  obtain ⟨disk, bare⟩ := pair.lintRecord noReturn verdicts
    (show record.endless.path = path from onPath) options
  have one := lintRecord_sameButEnds world options record
  have two := lintRecord_sameButEnds other options twin
  rw [← same, bare] at two
  exact ⟨one.findings.trans two.findings.symm, one.log.trans two.log.symm,
    one.commands.trans two.commands.symm, one.broken.trans two.broken.symm⟩

theorem classify_lint_withReturns_script :
    let world : World := { lenient with disk := draftDisk [] }
    let other : World := { lenient with disk := scriptDisk }
    ∃ record twin, classify world .standard {} "deploy.sh" = .ok record ∧
      classify other .standard {} "deploy.sh" = .ok twin ∧ record.SameButEnds twin ∧
      Lint.SameButEnds (lintRecord world {} record) (lintRecord other {} twin) := by
  intro world other
  have file : world.disk.lookup false "deploy.sh" =
      .ok (.file [0x23, 0x21, 0x2F, 0x62, 0x69, 0x6E, 0x2F, 0x73, 0x68, 0x0A] 0o755) := by
    refine Disk.lookup_name rfl ?_ ?_ ?_ ?_ ?_ ?_ <;> decide
  have returned : withReturns [0x23, 0x21, 0x2F, 0x62, 0x69, 0x6E, 0x2F, 0x73, 0x68, 0x0A] =
      [0x23, 0x21, 0x2F, 0x62, 0x69, 0x6E, 0x2F, 0x73, 0x68, 0x0D, 0x0A] := by decide
  have pair : world.Returned other "deploy.sh" _ 0o755 :=
    ⟨file, returned ▸ scriptDisk_lookup, fun _ _ => rfl⟩
  obtain ⟨alike, completes, lints⟩ := classify_lint_withReturns pair (by decide)
    (fun _ _ _ => rfl) {}
  obtain ⟨record, classified⟩ := completes fun _ _ => rfl
  rw [classified] at alike
  obtain ⟨twin, otherClassified, same⟩ := alike.of_ok
  exact ⟨record, twin, classified, otherClassified, same,
    lints {} record twin classified otherClassified⟩

end ShellSurvey
