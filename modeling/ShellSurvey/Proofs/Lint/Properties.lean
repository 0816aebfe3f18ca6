import ShellSurvey.Proofs.Lint.Gates

namespace ShellSurvey

/-- What a rule on properties reports. -/
def PropertyRule.kinds : PropertyRule → List FindingKind
  | .finalEol => [Kinds.missingFinalEol]
  | .carriageReturn => [Kinds.crLineEnding]
  | .bom => [Kinds.leadingBom]
  | .shebang => Kinds.ofShebangs
  | .permissions => [Kinds.sourceableExecutable, Kinds.ambiguousLaunch]
  | .modulino => [Kinds.modulino]

def PropertyRule.all : List PropertyRule :=
  [.finalEol, .carriageReturn, .bom, .shebang, .permissions, .modulino]

theorem PropertyRule.mem_all (rule : PropertyRule) : rule ∈ all := by cases rule <;> decide

theorem PropertyRule.kinds_apart {rule other : PropertyRule} (different : rule ≠ other) :
    ∀ kind ∈ rule.kinds, kind ∉ other.kinds := by
  have apart : ∀ rule ∈ all, ∀ other ∈ all, rule ≠ other →
      ∀ kind ∈ rule.kinds, kind ∉ other.kinds := by decide +kernel
  exact apart rule rule.mem_all other other.mem_all different

theorem PropertyRule.check_kinds (rule : PropertyRule) (record : Record) :
    AllOf rule.kinds (rule.check record) := by
  unfold check
  cases rule with
  | finalEol | carriageReturn | bom | modulino => exact .reportIf List.mem_cons_self _ _
  | shebang =>
    dsimp only
    split
    · exact .nil
    · exact shebangFindings_allOf record
  | permissions =>
    dsimp only
    split
    · exact .inFile List.mem_cons_self _
    · exact .reportIf (List.mem_cons_of_mem _ List.mem_cons_self) _ _

/-- A rule on properties reports one finding at most. -/
theorem PropertyRule.length_check_le (rule : PropertyRule) (record : Record) :
    (rule.check record).length ≤ 1 := by
  have reportIf (condition : Bool) (kind : FindingKind) (path : String) :
      (reportIf condition kind path).length ≤ 1 := by
    unfold ShellSurvey.reportIf
    split <;> simp
  have shebang : (shebangFindings record).length ≤ 1 := by
    unfold shebangFindings
    repeat' split
    all_goals simp
  unfold check
  cases rule with
  | finalEol | carriageReturn | bom | modulino => exact reportIf _ _ _
  | shebang =>
    dsimp only
    split
    · exact Nat.zero_le 1
    · exact shebang
  | permissions =>
    dsimp only
    split
    · exact Nat.le_refl 1
    · exact reportIf _ _ _

/-- What a rule reports stands behind findings of other rules. -/
theorem PropertyRule.foldFindings_check {rule : PropertyRule} {record : Record}
    {findings : List Finding} (apart : ∀ other ∈ findings, other.kind ∉ rule.kinds) :
    foldFindings findings (rule.check record) = findings ++ rule.check record := by
  have kinds := rule.check_kinds record
  have few := rule.length_check_le record
  cases checked : rule.check record with
  | nil => exact (List.append_nil findings).symm
  | cons finding rest =>
    rw [checked] at kinds few
    have alone : rest = [] := List.length_eq_zero_iff.mp (by simpa using few)
    subst alone
    refine foldFindings_new fun other member same => ?_
    exact apart other member (same ▸ kinds finding List.mem_cons_self)

/-- What different rules report stands side by side, in the order of the rules. -/
theorem foldl_check_eq {record : Record} {rules : List PropertyRule} (different : rules.Nodup)
    {findings : List Finding}
    (apart : ∀ rule ∈ rules, ∀ other ∈ findings, other.kind ∉ rule.kinds) :
    rules.foldl (fun findings rule => foldFindings findings (rule.check record)) findings =
      findings ++ rules.flatMap (PropertyRule.check · record) := by
  induction rules generalizing findings with
  | nil => exact (List.append_nil findings).symm
  | cons rule rules ih =>
    obtain ⟨new, distinct⟩ := List.nodup_cons.mp different
    obtain ⟨here, later⟩ := List.forall_mem_cons.mp apart
    rw [List.foldl_cons, PropertyRule.foldFindings_check here, ih distinct, List.flatMap_cons,
      List.append_assoc]
    intro next member
    refine List.forall_mem_append.mpr ⟨later next member, fun finding reported => ?_⟩
    have other : rule ≠ next := fun same => new (same ▸ member)
    exact PropertyRule.kinds_apart other _ (rule.check_kinds record finding reported)

theorem LintOptions.nodup_propertyRules (options : LintOptions) : options.propertyRules.Nodup := by
  obtain ⟨finalEol, carriageReturns, modulino⟩ := options
  cases finalEol <;> cases carriageReturns <;> cases modulino <;> decide

/-- No finding on properties is folded into another one. -/
theorem propertyFindings_eq (options : LintOptions) (record : Record) :
    propertyFindings options record = options.propertyRules.flatMap (PropertyRule.check · record) :=
  foldl_check_eq options.nodup_propertyRules fun _ _ => List.forall_mem_nil _

/-- What is reported beyond the properties of a script. -/
def Kinds.beyondProperties : List FindingKind := Kinds.ofValidity ++ Kinds.ofContent

theorem Kinds.beyondProperties_apart :
    ∀ kind ∈ beyondProperties, kind ∉ ofProperties := by decide +kernel

theorem checkValidity_beyond (world : World) (record : Record) :
    AllOf Kinds.beyondProperties (checkValidity world record).findings := by
  rcases checkValidity_cases world record with clean | ⟨_, finding, invalid, kind⟩
  · rw [clean]
    exact .nil
  · rw [invalid]
    exact .single (List.mem_append_left _ kind)

theorem ContentRule.check_beyond {rule : ContentRule} {world : World} {record : Record}
    {findings : List Finding} (checked : rule.check world record = .ok findings) :
    AllOf Kinds.beyondProperties findings := by
  unfold check at checked
  split at checked
  · cases read : readLines world record.path with
    | error refusal =>
      rw [read] at checked
      cases checked
    | ok lines =>
      rw [read] at checked
      cases checked
      exact (rule.inspect_allOf record lines).mono
        (List.subset_append_of_subset_right _ (List.subset_cons_self ..))
  · cases checked
    exact .nil

/-- A lint with some findings in front of its own. -/
def Lint.after (lint : Lint) (front : List Finding) : Lint :=
  { lint with findings := front ++ lint.findings }

section

variable {front : List Finding} (properties : AllOf Kinds.ofProperties front)
include properties

/-- Findings on properties stay in front of all others. -/
theorem foldFindings_beyond {more : List Finding} (beyond : AllOf Kinds.beyondProperties more)
    (findings : List Finding) :
    foldFindings (front ++ findings) more = front ++ foldFindings findings more := by
  refine foldFindings_append fun finding member earlier known same => ?_
  exact Kinds.beyondProperties_apart _ (beyond finding member) (same ▸ properties earlier known)

theorem checkContent_after (world : World) (record : Record) (lint : Lint)
    (rules : List ContentRule) :
    checkContent world record (lint.after front) rules =
      (checkContent world record lint rules).after front := by
  induction rules generalizing lint with
  | nil => rfl
  | cons rule rules ih =>
    unfold checkContent
    cases checked : rule.check world record with
    | ok findings =>
      have folded := foldFindings_beyond properties (ContentRule.check_beyond checked) lint.findings
      rw [← ih]
      simp only [Lint.after, folded]
    | error refusal =>
      cases refusal with
      | nulInPath => rfl
      | failed error =>
        have kind : AllOf Kinds.beyondProperties [unreadableFinding record.path error] :=
          .single (List.mem_append_right _ List.mem_cons_self)
        simp only [Lint.after, foldFindings_beyond properties kind]

end

/-- What a lint of a shell script comes to beyond the rules on properties. -/
def lintBeyond (world : World) (record : Record) : Lint :=
  let validity := checkValidity world record
  let disk := afterTool world.disk record.path validity.removed
  let lint : Lint :=
    { findings := validity.findings
      log := []
      commands := validity.command.toList
      disk := disk
      broken := validity.broken }
  if validity.passed then
    checkContent { world with disk := disk } record lint [.ifs, .safety, .traps]
  else lint

/-- The findings on properties come first and have no part in the rest of a lint. -/
theorem lintRecord_after (world : World) (options : LintOptions) {record : Record}
    (lintable : record.lintable = true) :
    lintRecord world options record =
      (lintBeyond world record).after
        (options.propertyRules.flatMap (PropertyRule.check · record)) := by
  rw [← propertyFindings_eq]
  have properties := propertyFindings_allOf options record
  have beyond := checkValidity_beyond world record
  have nothing : foldFindings [] (checkValidity world record).findings =
      (checkValidity world record).findings := by
    rcases checkValidity_cases world record with clean | ⟨_, finding, invalid, _⟩
    · rw [clean]
      rfl
    · rw [invalid]
      rfl
  have findings : foldFindings (propertyFindings options record)
      (checkValidity world record).findings =
      propertyFindings options record ++ (checkValidity world record).findings := by
    have behind := foldFindings_beyond properties beyond []
    rwa [List.append_nil, nothing] at behind
  have course : (validityCourse world options record).lint = Lint.after
      { findings := (checkValidity world record).findings
        log := []
        commands := (checkValidity world record).command.toList
        disk := afterTool world.disk record.path (checkValidity world record).removed
        broken := (checkValidity world record).broken }
      (propertyFindings options record) := by
    simp only [validityCourse, Lint.after, findings]
  rw [lintRecord_eq world options lintable, course, lintBeyond]
  split
  · exact checkContent_after properties _ record _ _
  · rfl

/-- What is not linted has nothing to be found. -/
theorem lintRecord_spared (world : World) (options : LintOptions) {record : Record}
    (spared : record.lintable = false) :
    lintRecord world options record = ⟨[], [], [], world.disk, none⟩ := by
  rw [lintRecord, spared, if_neg Bool.false_ne_true]

end ShellSurvey
