import ShellSurvey.Proofs.Content.Scripts
import ShellSurvey.Proofs.Content.Statements
import ShellSurvey.Proofs.Finding.Folding
import ShellSurvey.Proofs.Lint.Kinds
import ShellSurvey.Proofs.Lint.Spelling

namespace ShellSurvey

/-- A finding at several lines. -/
def FindingKind.atLines (kind : FindingKind) (path : String) (numbers : List Nat) : Finding :=
  { kind := kind, location := some ⟨path, numbers.map Int.ofNat⟩ }

section

variable (kind : FindingKind) (path : String) {numbers : List Nat}

theorem pairwise_ofNat (increasing : numbers.Pairwise (· < ·)) :
    (numbers.map Int.ofNat).Pairwise (· < ·) :=
  increasing.map _ fun _ _ less => Int.ofNat_lt.mpr less

theorem FindingKind.atLines_onPath (increasing : numbers.Pairwise (· < ·)) :
    (kind.atLines path numbers).OnPath path :=
  ⟨_, rfl, pairwise_ofNat increasing⟩

theorem FindingKind.atLine_onPath (number : Nat) : (kind.atLine path number).OnPath path :=
  kind.atLines_onPath path (List.pairwise_singleton _ number)

theorem FindingKind.map_atLine_onPath (numbers : List Nat) :
    ∀ finding ∈ numbers.map (kind.atLine path), finding.OnPath path :=
  List.forall_mem_map.mpr fun number _ => kind.atLine_onPath path number

/-- A later line is put behind the others. -/
theorem Finding.joined_atLines {number : Nat} (increasing : (numbers ++ [number]).Pairwise (· < ·)) :
    joined path (kind.atLines path numbers) (kind.atLine path number) =
      kind.atLines path (numbers ++ [number]) := by
  have ordered : sortLines ((numbers ++ [number]).map Int.ofNat) =
      (numbers ++ [number]).map Int.ofNat :=
    (pairwise_sortLines _).eq_of_mem_iff (pairwise_ofNat increasing) fun _ => mem_sortLines
  have together : (kind.atLines path numbers).lines ++ (kind.atLine path number).lines =
      (numbers ++ [number]).map Int.ofNat := by
    rw [List.map_append]
    rfl
  rw [joined, together, ordered]
  rfl

/-- Findings of one kind at lines in increasing order fold into a single one. -/
theorem foldFindings_atLines (nonempty : numbers ≠ []) (increasing : numbers.Pairwise (· < ·)) :
    foldFindings [] (numbers.map (kind.atLine path)) = [kind.atLines path numbers] := by
  induction numbers using List.reverseRecOn with
  | nil => exact absurd rfl nonempty
  | append_singleton before number ih =>
    have sorted := (List.pairwise_append.mp increasing).1
    rw [List.map_append,
      foldFindings_onPath_append (List.forall_mem_nil _) (kind.map_atLine_onPath path before)]
    by_cases first : before = []
    · subst first
      rfl
    · have repeated : (kind.atLines path before).repeats (kind.atLine path number) = true := by
        simp [Finding.repeats, FindingKind.atLines, FindingKind.atLine, sameValues]
      have absorbed := (kind.atLines_onPath path sorted).absorb (kind.atLine_onPath path number)
      rw [Finding.joined_atLines kind path increasing] at absorbed
      rw [ih first sorted, List.map_singleton, foldFindings, appendFindings,
        ← List.nil_append [kind.atLines path before], appendFinding_repeat repeated, absorbed]
      rfl

end

/-- The numbers of the lines with an `exec` statement. -/
def execNumbers (lines : List Line) : List Nat :=
  ((statements lines).filter fun statement => isExec statement.2).map Prod.fst

section

variable {lines : List Line}

theorem mem_execNumbers {number : Nat} : number ∈ execNumbers lines ↔
    ∃ statement, StatementAt lines number statement ∧ ReplacesShell statement := by
  simp [execNumbers, mem_statements, isExec_iff]

theorem pairwise_execNumbers : (execNumbers lines).Pairwise (· < ·) :=
  List.pairwise_map.mpr ((pairwise_statements lines).filter _)

end

/-- Whether the traps of a script are an offence in a dialect. -/
def TrapDialect.OffendedBy (lines : List Line) : TrapDialect → Prop
  | .zsh => HasStatement lines SetsListTrap
  | .bash => ¬ HasStatement lines SetsErrtrace
  | .other => True

theorem TrapDialect.offends_iff {lines : List Line} {dialect : TrapDialect} :
    dialect.offends ((statements lines).map Prod.snd) = true ↔ dialect.OffendedBy lines := by
  cases dialect with
  | zsh => exact any_statements fun _ => isListTrap_iff
  | bash =>
    rw [offends, Bool.not_eq_true', ← Bool.not_eq_true, any_statements fun _ => setsErrtrace_iff]
    rfl
  | other => exact iff_of_true rfl trivial

/-- What is reported of the `exec` statements of a script: one finding at the lines of all of them. -/
inductive ExecsReported (path : String) (lines : List Line) : List Finding → Prop
  | none (free : ¬ HasStatement lines ReplacesShell) : ExecsReported path lines []
  | once (numbers : List Nat) (some : HasStatement lines ReplacesShell)
      (increasing : numbers.Pairwise (· < ·))
      (all : ∀ number, number ∈ numbers ↔
        ∃ statement, StatementAt lines number statement ∧ ReplacesShell statement) :
      ExecsReported path lines [Kinds.execTraps.atLines path numbers]

/-- What is reported of the dialect of a script. -/
inductive DialectReported (dialect : TrapDialect) (path : String) (lines : List Line) :
    List Finding → Prop
  | spared (fine : ¬ dialect.OffendedBy lines) : DialectReported dialect path lines []
  | offended (offence : dialect.OffendedBy lines) :
      DialectReported dialect path lines [dialect.kind.inFile path]

/-- What is reported of the traps of a script. -/
inductive TrapReport (dialect : TrapDialect) (path : String) (lines : List Line) :
    List Finding → Prop
  | untrapped (free : ¬ HasStatement lines SetsTrap) : TrapReport dialect path lines []
  | trapped {execs rest : List Finding} (trap : HasStatement lines SetsTrap)
      (first : ExecsReported path lines execs) (after : DialectReported dialect path lines rest) :
      TrapReport dialect path lines (execs ++ rest)

theorem TrapReport.length_le {dialect : TrapDialect} {path : String} {lines : List Line}
    {findings : List Finding} (report : TrapReport dialect path lines findings) :
    findings.length ≤ 2 := by
  cases report with
  | untrapped => exact Nat.zero_le 2
  | trapped _ first after => cases first <;> cases after <;> simp

/-- The finding at all lines with an `exec` statement, if there are any. -/
def execFindings (path : String) (lines : List Line) : List Finding :=
  if execNumbers lines = [] then [] else [Kinds.execTraps.atLines path (execNumbers lines)]

section

variable {record : Record} {lines : List Line}

/-- The reports on `exec` statements fold into one, and that on the dialect stays apart. -/
theorem trapFindings_of_setsTrap (trap : setsTrap ((statements lines).map Prod.snd) = true) :
    trapFindings record lines =
      execFindings record.path lines ++ dialectFindings record ((statements lines).map Prod.snd) := by
  have execs : (((statements lines).filter fun statement => isExec statement.2).map fun statement =>
      Kinds.execTraps.atLine record.path statement.1) =
        (execNumbers lines).map (Kinds.execTraps.atLine record.path) := by
    rw [execNumbers, List.map_map]
    rfl
  have placed := Kinds.execTraps.map_atLine_onPath record.path (execNumbers lines)
  have folded : foldFindings [] ((execNumbers lines).map (Kinds.execTraps.atLine record.path)) =
      execFindings record.path lines := by
    unfold execFindings
    split
    · next none => rw [none, List.map_nil]; rfl
    · next some => exact foldFindings_atLines _ _ some pairwise_execNumbers
  have apart (dialect : TrapDialect) :
      ∀ finding ∈ execFindings record.path lines, finding.kind ≠ dialect.kind := by
    have other : Kinds.execTraps ≠ dialect.kind := by cases dialect <;> decide
    unfold execFindings
    split
    · exact List.forall_mem_nil _
    · exact List.forall_mem_singleton.mpr other
  rw [trapFindings_eq, if_pos trap, trapReports, execs,
    foldFindings_onPath_append (List.forall_mem_nil _) placed, folded, dialectFindings_eq]
  dsimp only
  unfold reportIf
  split
  · exact foldFindings_new (apart _)
  · rw [List.append_nil]
    rfl

theorem execFindings_reported (path : String) : ExecsReported path lines (execFindings path lines) := by
  unfold execFindings
  split
  · next none =>
    refine .none ?_
    rintro ⟨number, replaced⟩
    have listed := mem_execNumbers.mpr replaced
    rw [none] at listed
    exact List.not_mem_nil listed
  · next some =>
    obtain ⟨number, listed⟩ := List.exists_mem_of_ne_nil _ some
    exact .once _ ⟨number, mem_execNumbers.mp listed⟩ pairwise_execNumbers fun _ => mem_execNumbers

theorem dialectFindings_reported : DialectReported (.ofName record.interpreterName) record.path lines
    (dialectFindings record ((statements lines).map Prod.snd)) := by
  rw [dialectFindings_eq]
  dsimp only
  unfold reportIf
  split
  · next offence => exact .offended (TrapDialect.offends_iff.mp offence)
  · next fine => exact .spared fun offence => fine (TrapDialect.offends_iff.mpr offence)

theorem trapFindings_report : TrapReport (.ofName record.interpreterName) record.path lines
    (trapFindings record lines) := by
  by_cases trap : setsTrap ((statements lines).map Prod.snd) = true
  · rw [trapFindings_of_setsTrap trap]
    exact .trapped (setsTrap_iff.mp trap) (execFindings_reported _) dialectFindings_reported
  · rw [trapFindings_eq, if_neg trap]
    exact .untrapped fun has => trap (setsTrap_iff.mpr has)

end

/-- A finding with its line numbers left blank. -/
def Finding.unnumbered (finding : Finding) : Finding :=
  { finding with location := finding.location.map fun place =>
      { place with lines := place.lines.map fun _ => 0 } }

section

variable {record : Record} {lines others : List Line}

/-- Lines in another order change the numbers of `exec` statements, not how many there are. -/
theorem length_execNumbers_perm (same : lines.Perm others) :
    (execNumbers lines).length = (execNumbers others).length := by
  have counted (lines : List Line) : (execNumbers lines).length =
      ((statements lines).map Prod.snd).countP isExec := by
    rw [execNumbers, List.length_map, List.countP_map, List.countP_eq_length_filter]
    rfl
  rw [counted, counted, (perm_statements same).countP_eq]

theorem execFindings_unnumbered (path : String) :
    (execFindings path lines).map Finding.unnumbered =
      let count := (execNumbers lines).length
      if count = 0 then []
      else [{ kind := Kinds.execTraps, location := some ⟨path, List.replicate count 0⟩ }] := by
  unfold execFindings
  dsimp only
  by_cases none : execNumbers lines = []
  · rw [if_pos none, none]
    rfl
  · rw [if_neg none, if_neg (mt List.length_eq_zero_iff.mp none)]
    simp [FindingKind.atLines, Finding.unnumbered, List.map_const']

theorem dialectFindings_perm {texts moved : List Line} (same : texts.Perm moved) :
    dialectFindings record texts = dialectFindings record moved := by
  have offends (dialect : TrapDialect) : dialect.offends texts = dialect.offends moved := by
    cases dialect with
    | zsh => exact same.any_eq
    | bash => exact congrArg not same.any_eq
    | other => rfl
  rw [dialectFindings_eq, dialectFindings_eq]
  dsimp only
  rw [offends]

/-- The same lines in another order come to the same findings but for the numbers. -/
theorem trapFindings_perm (same : lines.Perm others) :
    (trapFindings record lines).map Finding.unnumbered =
      (trapFindings record others).map Finding.unnumbered := by
  have texts := perm_statements same
  have traps : setsTrap ((statements lines).map Prod.snd) =
      setsTrap ((statements others).map Prod.snd) := texts.any_eq
  by_cases trap : setsTrap ((statements lines).map Prod.snd) = true
  · rw [trapFindings_of_setsTrap trap, trapFindings_of_setsTrap (traps ▸ trap), List.map_append,
      List.map_append, execFindings_unnumbered, execFindings_unnumbered,
      length_execNumbers_perm same, dialectFindings_perm texts]
  · rw [trapFindings_eq, trapFindings_eq, if_neg trap, if_neg (traps ▸ trap)]

end

/-- Of a POSIX script the rule on traps reports nothing without a trap. With one it reports the `exec`
statements, if there are any, in one finding at all of their lines, and then the dialect, if it is
offended. Moving the lines of the script changes the line numbers and nothing else. -/
theorem traps_reported {world : World} {record : Record} {content : Bytes}
    (posix : record.posix = true) (read : world.ReadsAs record.path content) :
    ∃ findings, ContentRule.traps.check world record = .ok findings ∧
      TrapReport (.ofName record.interpreterName) record.path (scriptLines content) findings ∧
      findings.length ≤ 2 ∧
      ∀ (other : World) (moved : Bytes), other.ReadsAs record.path moved →
        (scriptLines moved).Perm (scriptLines content) →
        ∃ others, ContentRule.traps.check other record = .ok others ∧
          others.map Finding.unnumbered = findings.map Finding.unnumbered :=
  ⟨_, ContentRule.check_readsAs posix read, trapFindings_report, trapFindings_report.length_le,
    fun _ _ readToo same => ⟨_, ContentRule.check_readsAs posix readToo, trapFindings_perm same⟩⟩

/-- A trap between two `exec` statements, and the same three lines with the trap at the top. -/
theorem traps_reported_moved :
    let record : Record := { path := "deploy", posix := true, interpreter := .ofName "sh" }
    let content := asciiBytes "exec a\ntrap - 0\nexec b\n".toList
    let moved := asciiBytes "trap - 0\nexec b\nexec a\n".toList
    ∃ findings others,
      ContentRule.traps.check (.ofDisk (.ofScript content)) record = .ok findings ∧
      ContentRule.traps.check (.ofDisk (.ofScript moved)) record = .ok others ∧
      findings = [Kinds.execTraps.atLines "deploy" [1, 3], Kinds.subshellTraps.inFile "deploy"] ∧
      others.map Finding.unnumbered = findings.map Finding.unnumbered := by
  intro record content moved
  have lines : scriptLines content = ["exec a".toList, "trap - 0".toList, "exec b".toList] :=
    (scriptLines_asciiBytes (by decide)).trans (by decide)
  have others : scriptLines moved = ["trap - 0".toList, "exec b".toList, "exec a".toList] :=
    (scriptLines_asciiBytes (by decide)).trans (by decide)
  have posix : record.posix = true := rfl
  have same : (scriptLines moved).Perm (scriptLines content) := by
    rw [lines, others]
    decide
  have read : (World.ofDisk (.ofScript content)).ReadsAs record.path content :=
    World.readsAs_ofScript content
  obtain ⟨findings, checked, _, _, move⟩ := traps_reported posix read
  obtain ⟨found, movedToo, alike⟩ := move _ moved (World.readsAs_ofScript moved) same
  have given : ContentRule.traps.check (.ofDisk (.ofScript content)) record =
      .ok (trapFindings record (scriptLines content)) := ContentRule.check_readsAs rfl read
  have execs : execNumbers ["exec a".toList, "trap - 0".toList, "exec b".toList] = [1, 3] := by decide
  have dialect : TrapDialect.ofName record.interpreterName = .other := by decide +kernel
  refine ⟨findings, found, checked, movedToo, ?_, alike⟩
  rw [checked, lines, trapFindings_of_setsTrap (by decide), execFindings, execs, dialectFindings_eq,
    dialect] at given
  cases given
  rfl

end ShellSurvey
