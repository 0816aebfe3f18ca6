import ShellSurvey.Proofs.Lint.Properties
import ShellSurvey.Proofs.Survey.Yield

namespace ShellSurvey

/-- The owner's execute bit is the same in the permissions and in the field of its own. -/
theorem Record.Sound.hasBits_owner {record : Record} (sound : record.Sound) :
    hasBits record.permissions ownerExecute = record.ownerExecutable := by
  obtain ⟨notNegative, small⟩ := sound.permissions
  have whole : record.permissions % 512 = record.permissions := by omega
  rw [Bool.eq_iff_iff, hasBits, whole, bne_iff_ne, sound.ownerExecutable]
  rfl

theorem reportIf_eq_nil_iff {condition : Bool} {kind : FindingKind} {path : String} :
    reportIf condition kind path = [] ↔ condition = false := by
  cases condition <;> simp [reportIf]

/-- A script that cannot be told from a module is launched ambiguously, or it is a library that can be
run. -/
theorem PropertyRule.permissions_of_modulino {record : Record} (sound : record.Sound)
    (reported : modulino.check record ≠ []) : permissions.check record ≠ [] := by
  have unclear : ambiguous record.extension record.ownerExecutable
      (hasBits record.permissions anyExecute) = true := by
    rw [check, ne_eq, reportIf_eq_nil_iff, Bool.not_eq_false, Bool.and_eq_true] at reported
    exact reported.2
  rw [check]
  split
  · exact List.cons_ne_nil _ _
  · rw [sound.hasBits_owner, unclear, ne_eq, reportIf_eq_nil_iff]
    decide

/-- Linting with or without the rule on modulinos. -/
def LintOptions.withModulino (options : LintOptions) (modulino : Bool) : LintOptions :=
  { options with modulino := modulino }

theorem LintOptions.propertyRules_without (options : LintOptions) :
    (options.withModulino true).propertyRules.filter (· ≠ .modulino) =
      (options.withModulino false).propertyRules := by
  obtain ⟨finalEol, carriageReturns, _⟩ := options
  cases finalEol <;> cases carriageReturns <;> rfl

theorem LintOptions.permissions_mem (options : LintOptions) :
    .permissions ∈ options.propertyRules := by
  simp [propertyRules]

/-- Leaving out what a rule reports is leaving out the rule. -/
theorem flatMap_check_without (rule : PropertyRule) (rules : List PropertyRule) (record : Record) :
    (rules.flatMap (PropertyRule.check · record)).filter (fun finding => finding.kind ∉ rule.kinds) =
      (rules.filter (· ≠ rule)).flatMap (PropertyRule.check · record) := by
  induction rules with
  | nil => rfl
  | cons other rules ih =>
    rw [List.flatMap_cons, List.filter_append, ih]
    have kinds := other.check_kinds record
    rcases eq_or_ne other rule with rfl | different
    · have none : (other.check record).filter (fun finding => finding.kind ∉ other.kinds) = [] := by
        rw [List.filter_eq_nil_iff]
        intro finding reported
        simpa using kinds finding reported
      rw [none, List.filter_cons_of_neg (by simp), List.nil_append]
    · have all : (other.check record).filter (fun finding => finding.kind ∉ rule.kinds) =
          other.check record := by
        rw [List.filter_eq_self]
        intro finding reported
        simpa using PropertyRule.kinds_apart different _ (kinds finding reported)
      rw [all, List.filter_cons_of_pos (by simpa using different), List.flatMap_cons]

theorem checkContent_beyond {world : World} {record : Record} {lint : Lint}
    {rules : List ContentRule} (beyond : AllOf Kinds.beyondProperties lint.findings) :
    AllOf Kinds.beyondProperties (checkContent world record lint rules).findings := by
  induction rules generalizing lint with
  | nil => exact beyond
  | cons rule rules ih =>
    unfold checkContent
    cases checked : rule.check world record with
    | ok findings => exact ih (beyond.fold (ContentRule.check_beyond checked))
    | error refusal =>
      cases refusal with
      | nulInPath => exact beyond
      | failed error =>
        exact beyond.fold (.single (List.mem_append_right _ List.mem_cons_self))

theorem lintBeyond_beyond (world : World) (record : Record) :
    AllOf Kinds.beyondProperties (lintBeyond world record).findings := by
  have validity := checkValidity_beyond world record
  unfold lintBeyond
  dsimp only
  split
  · exact checkContent_beyond validity
  · exact validity

/-- Two lints, of which the second has the findings of the first and some on modulinos among them, but is
clean only if the first is. -/
structure Lint.GainsModulino (lint other : Lint) : Prop where
  findings : other.findings.filter (·.kind ≠ Kinds.modulino) = lint.findings
  clean : other.findings.isEmpty = lint.findings.isEmpty
  log : other.log = lint.log
  commands : other.commands = lint.commands
  disk : other.disk = lint.disk
  broken : other.broken = lint.broken

theorem lintRecord_modulino (world : World) (options : LintOptions) {record : Record}
    (sound : record.Sound) :
    (lintRecord world (options.withModulino false) record).GainsModulino
      (lintRecord world (options.withModulino true) record) := by
  cases lintable : record.lintable with
  | false =>
    rw [lintRecord_spared world _ lintable, lintRecord_spared world _ lintable]
    exact ⟨rfl, rfl, rfl, rfl, rfl, rfl⟩
  | true =>
    rw [lintRecord_after world _ lintable, lintRecord_after world _ lintable]
    let rules := (options.withModulino true).propertyRules
    let others := (options.withModulino false).propertyRules
    have without : (rules.flatMap (PropertyRule.check · record)).filter (·.kind ≠ Kinds.modulino) =
        others.flatMap (PropertyRule.check · record) := by
      have dropped := flatMap_check_without .modulino rules record
      rw [options.propertyRules_without] at dropped
      simpa only [PropertyRule.kinds, List.mem_singleton] using dropped
    have kept : (lintBeyond world record).findings.filter (·.kind ≠ Kinds.modulino) =
        (lintBeyond world record).findings := by
      rw [List.filter_eq_self]
      intro finding found
      have kind := Kinds.beyondProperties_apart _ (lintBeyond_beyond world record finding found)
      have property : Kinds.modulino ∈ Kinds.ofProperties := by decide +kernel
      exact decide_eq_true fun same => kind (same ▸ property)
    have nothing : rules.flatMap (PropertyRule.check · record) = [] ↔
        others.flatMap (PropertyRule.check · record) = [] := by
      refine ⟨fun clean => ?_, fun clean => ?_⟩
      · rw [← without, clean]
        rfl
      · have silent := List.flatMap_eq_nil_iff.mp clean
        refine List.flatMap_eq_nil_iff.mpr fun rule member => ?_
        rcases eq_or_ne rule .modulino with rfl | different
        · by_contra reported
          exact PropertyRule.permissions_of_modulino sound reported
            (silent _ (options.withModulino false).permissions_mem)
        · refine silent rule ?_
          rw [show others = _ from options.propertyRules_without.symm]
          exact List.mem_filter.mpr ⟨member, decide_eq_true different⟩
    refine ⟨?_, ?_, rfl, rfl, rfl, rfl⟩
    · rw [Lint.after, Lint.after, List.filter_append, without, kept]
    · rw [Bool.eq_iff_iff, List.isEmpty_iff, List.isEmpty_iff, Lint.after, Lint.after,
        List.append_eq_nil_iff, List.append_eq_nil_iff, nothing]

end ShellSurvey
