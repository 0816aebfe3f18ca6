import ShellSurvey.Linter
import ShellSurvey.Proofs.Finding.Merging

namespace ShellSurvey

namespace Kinds

/-- What the rule on shebangs reports. -/
def ofShebangs : List FindingKind :=
  [missingShebang, flippedShebang, relativeShebang, commentedShebang, shebangFlags]

/-- What the rules on properties report. -/
def ofProperties : List FindingKind :=
  [missingFinalEol, crLineEnding, leadingBom, missingShebang, flippedShebang, relativeShebang,
    commentedShebang, shebangFlags, sourceableExecutable, ambiguousLaunch, modulino]

/-- What checking validity reports. -/
def ofValidity : List FindingKind := [unknownValidator, interpreterNotFound, rejectedScript]

/-- What the rules on content report of a script that they could read. -/
def ofLines : List FindingKind :=
  [ifsNotReset, noSafetyFlags, execTraps, zshListTraps, bashErrtrace, subshellTraps]

/-- What the rules on content report. -/
def ofContent : List FindingKind := unreadableScript :: ofLines

end Kinds

/-- All findings are of some kinds. -/
def AllOf (kinds : List FindingKind) (findings : List Finding) : Prop :=
  ∀ finding ∈ findings, finding.kind ∈ kinds

section

variable {kinds : List FindingKind}

theorem AllOf.nil : AllOf kinds [] := List.forall_mem_nil _

theorem AllOf.single {finding : Finding} (known : finding.kind ∈ kinds) : AllOf kinds [finding] :=
  List.forall_mem_singleton.mpr known

theorem AllOf.inFile {kind : FindingKind} (known : kind ∈ kinds) (path : String) :
    AllOf kinds [kind.inFile path] := .single known

theorem AllOf.mono {more : List FindingKind} (fewer : kinds ⊆ more) {findings : List Finding}
    (all : AllOf kinds findings) : AllOf more findings :=
  fun finding member => fewer (all finding member)

theorem AllOf.append {findings more : List Finding} (first : AllOf kinds findings)
    (second : AllOf kinds more) : AllOf kinds (findings ++ more) :=
  List.forall_mem_append.mpr ⟨first, second⟩

theorem AllOf.reportIf {kind : FindingKind} (known : kind ∈ kinds) (condition : Bool)
    (path : String) : AllOf kinds (reportIf condition kind path) := by
  unfold ShellSurvey.reportIf
  split
  · exact .single known
  · exact .nil

theorem AllOf.appendFinding {findings sum : List Finding} {finding : Finding}
    (first : AllOf kinds findings) (known : finding.kind ∈ kinds)
    (appended : appendFinding findings finding = .ok sum) : AllOf kinds sum := by
  rcases appendFinding_ok_cases appended with ⟨_, rfl⟩ | ⟨front, last, whole, rfl, _, absorbed, rfl⟩
  · exact first.append (.single known)
  · obtain ⟨before, ending⟩ := List.forall_mem_append.mp first
    have same : whole.kind = last.kind := congrArg Prod.fst (Finding.message_absorb absorbed)
    have ending : last.kind ∈ kinds := ending last (List.mem_singleton_self last)
    exact AllOf.append before (.single (same ▸ ending))

/-- Folding brings in no other kinds. -/
theorem AllOf.fold {findings more : List Finding} (first : AllOf kinds findings)
    (second : AllOf kinds more) : AllOf kinds (foldFindings findings more) := by
  unfold foldFindings
  induction more generalizing findings with
  | nil => exact first
  | cons finding rest ih =>
    obtain ⟨here, later⟩ := List.forall_mem_cons.mp second
    unfold appendFindings
    cases appended : ShellSurvey.appendFinding findings finding with
    | error clash => exact first
    | ok sum => exact ih (first.appendFinding here appended) later

end

/-- A finding of a kind that was not reported before is not folded into another one. -/
theorem appendFinding_new {findings : List Finding} {finding : Finding}
    (new : ∀ other ∈ findings, other.kind ≠ finding.kind) :
    appendFinding findings finding = .ok (findings ++ [finding]) := by
  refine appendFinding_apart fun last ending => ?_
  unfold Finding.repeats
  rw [decide_eq_false (new last (List.mem_of_getLast? ending)), Bool.false_and]

theorem foldFindings_new {findings : List Finding} {finding : Finding}
    (new : ∀ other ∈ findings, other.kind ≠ finding.kind) :
    foldFindings findings [finding] = findings ++ [finding] := by
  rw [foldFindings, appendFindings, appendFinding_new new]
  rfl

/-- Findings of other kinds in front have no part in how a finding is added. -/
theorem appendFinding_append {front findings : List Finding} {finding : Finding}
    (apart : ∀ other ∈ front, other.kind ≠ finding.kind) :
    appendFinding (front ++ findings) finding = (appendFinding findings finding).map (front ++ ·) := by
  cases last : findings.getLast? with
  | none =>
    rw [List.getLast?_eq_none_iff.mp last, List.append_nil, appendFinding_new apart]
    rfl
  | some earlier =>
    have nonempty : findings ≠ [] := by
      rintro rfl
      cases last
    have lastOfAll : (front ++ findings).getLast? = some earlier := by
      rw [List.getLast?_append, last, Option.some_or]
    unfold appendFinding
    rw [last, lastOfAll]
    dsimp only
    split
    · rw [List.dropLast_append_of_ne_nil nonempty]
      cases earlier.absorb finding with
      | error clash => rfl
      | ok sum => exact congrArg Except.ok (List.append_assoc ..)
    · exact congrArg Except.ok (List.append_assoc ..)

theorem foldFindings_append {front findings more : List Finding}
    (apart : ∀ finding ∈ more, ∀ other ∈ front, other.kind ≠ finding.kind) :
    foldFindings (front ++ findings) more = front ++ foldFindings findings more := by
  unfold foldFindings
  induction more generalizing findings with
  | nil => rfl
  | cons finding rest ih =>
    obtain ⟨here, later⟩ := List.forall_mem_cons.mp apart
    rw [appendFindings, appendFindings, appendFinding_append here]
    cases appendFinding findings finding with
    | error clash => rfl
    | ok sum => exact ih later

theorem shebangFindings_allOf (record : Record) : AllOf Kinds.ofShebangs (shebangFindings record) := by
  unfold shebangFindings
  split
  · exact .inFile (by simp [Kinds.ofShebangs]) _
  · split
    · exact .inFile (by simp [Kinds.ofShebangs]) _
    · split
      · exact .inFile (by simp [Kinds.ofShebangs]) _
      · split
        · exact .single (by simp [FindingKind.inFileWith, Kinds.ofShebangs])
        · exact .nil
  · exact .inFile (by simp [Kinds.ofShebangs]) _

theorem PropertyRule.check_allOf (rule : PropertyRule) (record : Record) :
    AllOf Kinds.ofProperties (rule.check record) := by
  unfold check
  cases rule with
  | finalEol | carriageReturn | bom | modulino =>
    exact .reportIf (by simp [Kinds.ofProperties]) _ _
  | shebang =>
    dsimp only
    split
    · exact .nil
    · exact (shebangFindings_allOf record).mono (by simp [Kinds.ofShebangs, Kinds.ofProperties])
  | permissions =>
    dsimp only
    split
    · exact .inFile (by simp [Kinds.ofProperties]) _
    · exact .reportIf (by simp [Kinds.ofProperties]) _ _

/-- What holds of no findings, and still holds when those of a rule are folded in, holds of the findings
on properties. -/
theorem propertyFindings_induction {motive : List Finding → Prop} {record : Record}
    (none : motive [])
    (fold : ∀ findings rule, motive findings →
      motive (foldFindings findings (PropertyRule.check rule record))) (options : LintOptions) :
    motive (propertyFindings options record) := by
  have along (rules : List PropertyRule) {findings : List Finding} (first : motive findings) :
      motive (rules.foldl (fun findings rule => foldFindings findings (rule.check record))
        findings) := by
    induction rules generalizing findings with
    | nil => exact first
    | cons rule rest ih => exact ih (fold findings rule first)
  exact along options.propertyRules none

theorem propertyFindings_allOf (options : LintOptions) (record : Record) :
    AllOf Kinds.ofProperties (propertyFindings options record) :=
  propertyFindings_induction .nil (fun _ rule first => first.fold (rule.check_allOf record)) options

theorem ValidationFailure.kind_finding (failure : ValidationFailure) (path : String) :
    (failure.finding path).kind ∈ Kinds.ofValidity := by
  cases failure <;> simp [finding, FindingKind.inFileWith, Kinds.ofValidity]

/-- Checking validity reports one finding at most, and none if it is broken off. -/
theorem checkValidity_cases (world : World) (record : Record) :
    (checkValidity world record).findings = [] ∨
      (checkValidity world record).broken = none ∧
        ∃ finding, (checkValidity world record).findings = [finding] ∧
          finding.kind ∈ Kinds.ofValidity := by
  unfold checkValidity Validation.check
  split
  · cases (validate world record).outcome with
    | valid => exact Or.inl rfl
    | failed failure =>
      exact Or.inr ⟨rfl, failure.finding record.path, rfl, failure.kind_finding record.path⟩
    | interrupted cause => exact Or.inl rfl
  · exact Or.inl rfl

theorem dialectFindings_allOf (record : Record) (statements : List Line) :
    AllOf Kinds.ofLines (dialectFindings record statements) := by
  unfold dialectFindings
  dsimp only
  split
  · exact .reportIf (by simp [Kinds.ofLines]) _ _
  · split
    · exact .reportIf (by simp [Kinds.ofLines]) _ _
    · exact .inFile (by simp [Kinds.ofLines]) _

theorem ContentRule.inspect_allOf (rule : ContentRule) (record : Record) (lines : List Line) :
    AllOf Kinds.ofLines (rule.inspect record lines) := by
  unfold inspect
  cases rule with
  | ifs | safety =>
    intro finding member
    obtain ⟨line, _, rfl⟩ := List.mem_map.mp member
    simp [FindingKind.atLine, Kinds.ofLines]
  | traps =>
    dsimp only
    unfold trapFindings
    dsimp only
    split
    · refine AllOf.nil.fold (AllOf.append ?_ (dialectFindings_allOf record _))
      intro finding member
      obtain ⟨statement, _, rfl⟩ := List.mem_map.mp member
      simp [FindingKind.atLine, Kinds.ofLines]
    · exact .nil

end ShellSurvey
