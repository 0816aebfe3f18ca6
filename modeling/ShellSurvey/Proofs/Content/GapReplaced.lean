import ShellSurvey.Proofs.Content.Gaps

namespace ShellSurvey

/-- Statements that the rule on traps takes for the same. -/
structure TrapAlike (statement other : Line) : Prop where
  list : isListTrap statement = isListTrap other
  function : isFunctionTrap statement = isFunctionTrap other
  exec : isExec statement = isExec other
  guard : setsErrtrace statement = setsErrtrace other

/-- The statement of a line stands between those of the lines before and behind it. -/
theorem statements_around (front back : List Line) {line : Line} (visible : trim line ≠ [])
    (noComment : isComment (trim line) = false) :
    statements (front ++ line :: back) = statements front ++ (front.length + 1, trim line) ::
      ((back.map trim).zipIdx (front.length + 2)).filterMap fun (line, number) =>
        if line = [] || isComment line then none else some (number, line) := by
  have kept : (trim line = [] || isComment (trim line)) = false := by
    rw [decide_eq_false visible, noComment]
    rfl
  unfold statements
  rw [List.map_append, List.map_cons, List.zipIdx_append, List.zipIdx_cons, List.filterMap_append,
    List.filterMap_cons, List.length_map, Nat.add_comm 1]
  dsimp only
  rw [kept]
  rfl

theorem trapFindings_replaced (record : Record) (front back : List Line) {line other : Line}
    (visible : trim line ≠ []) (noComment : isComment (trim line) = false)
    (visibleToo : trim other ≠ []) (noCommentToo : isComment (trim other) = false)
    (alike : TrapAlike (trim line) (trim other)) :
    trapFindings record (front ++ line :: back) = trapFindings record (front ++ other :: back) := by
  have offends (dialect : TrapDialect) (texts more : List Line) :
      dialect.offends (texts ++ trim line :: more) =
        dialect.offends (texts ++ trim other :: more) := by
    cases dialect <;> simp [TrapDialect.offends, alike.list, alike.guard]
  have traps (texts more : List Line) :
      setsTrap (texts ++ trim line :: more) = setsTrap (texts ++ trim other :: more) := by
    simp [setsTrap, alike.list, alike.function]
  rw [trapFindings_eq, trapFindings_eq, trapReports, trapReports, dialectFindings_eq,
    dialectFindings_eq, statements_around front back visible noComment,
    statements_around front back visibleToo noCommentToo]
  simp only [List.map_append, List.map_cons, List.filter_append, List.filter_cons, traps, offends,
    alike.exec]
  cases isExec (trim other) <;> rfl

namespace GappedLine

variable {line : GappedLine} {gap newGap : Gap}

theorem trapAlike_statement (alike : line.SeenBy gap .traps ↔ line.SeenBy newGap .traps) :
    TrapAlike (line.statement gap) (line.statement newGap) where
  list := by rw [Bool.eq_iff_iff, isListTrap_statement, isListTrap_statement, alike]
  function := by rw [isFunctionTrap_statement, isFunctionTrap_statement]
  exec := by rw [Bool.eq_iff_iff, isExec_statement, isExec_statement, alike]
  guard := by rw [Bool.eq_iff_iff, setsErrtrace_statement, setsErrtrace_statement, alike]

/-- Of a line that a rule takes for the same with two gaps, it makes the same in every script. -/
theorem inspect_alike {rule : ContentRule} (alike : line.SeenBy gap rule ↔ line.SeenBy newGap rule)
    (record : Record) (front back : List Line) :
    rule.inspect record (front ++ line.text gap :: back) =
      rule.inspect record (front ++ line.text newGap :: back) := by
  cases rule with
  | ifs =>
    have same : ContentRule.ifs.verdict (line.text gap) = ContentRule.ifs.verdict (line.text newGap) :=
      ifsVerdict_text.trans ifsVerdict_text.symm
    exact ContentRule.inspect_replaced rfl record front back same
  | safety =>
    refine ContentRule.inspect_replaced rfl record front back ?_
    by_cases seen : line.SeenBy gap .safety
    · exact (safetyVerdict_text.1 seen).trans (safetyVerdict_text.1 (alike.mp seen)).symm
    · exact (safetyVerdict_text.2 seen).trans (safetyVerdict_text.2 (mt alike.mpr seen)).symm
  | traps =>
    refine trapFindings_replaced record front back trim_ne_nil isComment_trim trim_ne_nil
      isComment_trim ?_
    rw [trim_text, trim_text]
    exact trapAlike_statement alike

theorem hasStatement_append (front : List Line) (form : Line → Prop) :
    HasStatement (front ++ [line.text gap]) form ↔
      HasStatement front form ∨ form (line.statement gap) := by
  simp only [HasStatement, ← mem_statements, statements_around front [] trim_ne_nil isComment_trim,
    trim_text, List.mem_append, or_and_right, exists_or]
  simp

theorem setsTrap_statement : SetsTrap (line.statement gap) ↔
    line.word = .trap ∧ line.SeenBy gap .traps := by
  rw [SetsTrap, ← isListTrap_iff, ← isFunctionTrap_iff, isListTrap_statement,
    isFunctionTrap_statement]
  simp

end GappedLine

/-- In most dialects a trap is never without a finding. -/
theorem TrapReport.ne_nil_iff {path : String} {lines : List Line} {findings : List Finding}
    (report : TrapReport .other path lines findings) :
    findings ≠ [] ↔ HasStatement lines SetsTrap := by
  cases report with
  | untrapped free => exact iff_of_false (fun some => some rfl) free
  | trapped trap _ after =>
    refine iff_of_true ?_ trap
    cases after with
    | spared fine => exact absurd trivial fine
    | offended => exact List.append_ne_nil_of_right_ne_nil _ (List.cons_ne_nil _ _)

theorem TrapReport.execs_iff {dialect : TrapDialect} {path : String} {lines : List Line}
    {findings : List Finding} (report : TrapReport dialect path lines findings)
    (trap : HasStatement lines SetsTrap) :
    (∃ finding ∈ findings, finding.kind = Kinds.execTraps) ↔ HasStatement lines ReplacesShell := by
  have apart : dialect.kind ≠ Kinds.execTraps := by cases dialect <;> decide
  cases report with
  | untrapped free => exact absurd trap free
  | trapped _ first after =>
    cases first with
    | none free =>
      refine iff_of_false ?_ free
      rintro ⟨finding, member, named⟩
      cases after with
      | spared => cases member
      | offended =>
        obtain rfl := List.mem_singleton.mp member
        exact apart named
    | once numbers some => exact iff_of_true ⟨_, List.mem_append_left _ List.mem_cons_self, rfl⟩ some

section

variable {line : GappedLine} {gap : Gap} {record : Record} {front : List Line}

/-- At the top of a script the rule on safety flags is silent if it sees a `set` command. -/
theorem GappedLine.safety_observed :
    ContentRule.safety.inspect record [line.text gap] = [] ↔ line.SeenBy gap .safety := by
  have asked : ContentRule.safety.topKind? = some Kinds.noSafetyFlags := rfl
  rw [ContentRule.inspect_top asked, List.map_eq_nil_iff, Option.toList_eq_nil_iff]
  by_cases seen : line.SeenBy gap .safety
  · have settled : ContentRule.safety.verdict (line.text gap) = .settled :=
      safetyVerdict_text.1 seen
    rw [firstOffence, settled]
    exact iff_of_true rfl seen
  · have offence : ContentRule.safety.verdict (line.text gap) = .offence :=
      safetyVerdict_text.2 seen
    rw [firstOffence, offence]
    exact iff_of_false (Option.some_ne_none _) seen

/-- Without another trap, there is something to report if the rule sees this one. -/
theorem GappedLine.trap_observed (trap : line.word = .trap)
    (dialect : TrapDialect.ofName record.interpreterName = .other)
    (free : ¬ HasStatement front SetsTrap) :
    trapFindings record (front ++ [line.text gap]) ≠ [] ↔ line.SeenBy gap .traps := by
  have report : TrapReport .other record.path (front ++ [line.text gap])
      (trapFindings record (front ++ [line.text gap])) := dialect ▸ trapFindings_report
  rw [report.ne_nil_iff, hasStatement_append, setsTrap_statement, or_iff_right free,
    and_iff_right trap]

/-- Behind a trap, an `exec` statement is reported if the rule sees it. -/
theorem GappedLine.exec_observed (exec : line.word = .exec) (trap : HasStatement front SetsTrap)
    (free : ¬ HasStatement front ReplacesShell) :
    (∃ finding ∈ trapFindings record (front ++ [line.text gap]), finding.kind = Kinds.execTraps) ↔
      line.SeenBy gap .traps := by
  rw [trapFindings_report.execs_iff ((hasStatement_append front _).mpr (Or.inl trap)),
    hasStatement_append, ← isExec_iff, isExec_statement, or_iff_right free, and_iff_right exec]

/-- Behind a trap in bash, no guard is missed if the rule sees this one. -/
theorem GappedLine.set_observed (set : line.word = .set)
    (dialect : TrapDialect.ofName record.interpreterName = .bash)
    (trap : HasStatement front SetsTrap) (free : ¬ HasStatement front SetsErrtrace) :
    (∀ finding ∈ trapFindings record (front ++ [line.text gap]),
        finding.kind ≠ Kinds.bashErrtrace) ↔ line.SeenBy gap .traps := by
  have report : TrapReport .bash record.path (front ++ [line.text gap])
      (trapFindings record (front ++ [line.text gap])) := dialect ▸ trapFindings_report
  rw [report.errtrace_iff ((hasStatement_append front _).mpr (Or.inl trap)), hasStatement_append,
    ← setsErrtrace_iff, setsErrtrace_statement, or_iff_right free, and_iff_right set]

end

/-- A rule that makes the same of a line with two gaps, in every script, takes both for the same. -/
theorem GappedLine.alike_of_inspect {line : GappedLine} {gap newGap : Gap} {rule : ContentRule}
    (same : ∀ record, rule.applies record = true → ∀ front back,
      rule.inspect record (front ++ line.text gap :: back) =
        rule.inspect record (front ++ line.text newGap :: back)) :
    line.SeenBy gap rule ↔ line.SeenBy newGap rule := by
  let shell : Record := { path := "deploy", posix := true, interpreter := .ofName "sh" }
  let bash : Record := { path := "deploy", posix := true, interpreter := .ofName "bash" }
  have trap : HasStatement ["trap - 0".toList] SetsTrap := setsTrap_iff.mp (by decide)
  cases rule with
  | ifs => exact Iff.rfl
  | safety =>
    rw [← safety_observed, ← safety_observed]
    exact Eq.congr_left (same shell rfl [] [])
  | traps =>
    have alike (record : Record) (posix : record.posix = true) (front : List Line) :
        trapFindings record (front ++ [line.text gap]) =
          trapFindings record (front ++ [line.text newGap]) := same record posix front []
    -- What the rule sees shows in other findings for each command, so each needs a script of its own.
    cases word : line.word with
    | set =>
      have dialect : TrapDialect.ofName bash.interpreterName = .bash := by decide +kernel
      have free : ¬ HasStatement ["trap - 0".toList] SetsErrtrace := by
        rw [← any_statements fun _ => setsErrtrace_iff]
        decide
      rw [← set_observed word dialect trap free, alike bash rfl, set_observed word dialect trap free]
    | trap =>
      have dialect : TrapDialect.ofName shell.interpreterName = .other := by decide +kernel
      have free : ¬ HasStatement [] SetsTrap := by
        rw [← setsTrap_iff]
        decide
      rw [← trap_observed word dialect free, alike shell rfl, trap_observed word dialect free]
    | exec =>
      have free : ¬ HasStatement ["trap - 0".toList] ReplacesShell := by
        rw [← any_statements fun _ => isExec_iff]
        decide
      rw [← exec_observed word trap free, alike shell rfl, exec_observed word trap free]

/-- With another gap in one of its lines, a rule makes the same of a script if it takes the line for the
same. If it does not, some scripts tell the two gaps apart. -/
theorem gap_replaced {world other : World} {record : Record} {content newContent : Bytes}
    {front back : List Line} {line : GappedLine} {gap newGap : Gap} (rule : ContentRule)
    (read : world.ReadsAs record.path content) (readToo : other.ReadsAs record.path newContent)
    (lines : scriptLines content = front ++ line.text gap :: back)
    (newLines : scriptLines newContent = front ++ line.text newGap :: back) :
    ((line.SeenBy gap rule ↔ line.SeenBy newGap rule) →
        rule.check world record = rule.check other record) ∧
      ((∀ record, rule.applies record = true → ∀ front back,
          rule.inspect record (front ++ line.text gap :: back) =
            rule.inspect record (front ++ line.text newGap :: back)) →
        (line.SeenBy gap rule ↔ line.SeenBy newGap rule)) := by
  refine ⟨fun alike => ?_, GappedLine.alike_of_inspect⟩
  cases applies : rule.applies record with
  | false => rw [ContentRule.check_spared applies, ContentRule.check_spared applies]
  | true =>
    rw [ContentRule.check_readsAs applies read, ContentRule.check_readsAs applies readToo, lines,
      newLines, GappedLine.inspect_alike alike]

/-- A tab behind the space changes nothing. -/
theorem gap_replaced_tab_behind :
    let record : Record := { path := "deploy", posix := true, interpreter := .ofName "sh" }
    let content := asciiBytes "#!/bin/sh\nset -euf\ntrap - 0\n".toList
    let newContent := asciiBytes "#!/bin/sh\nset \t-euf\ntrap - 0\n".toList
    ContentRule.safety.check (.ofDisk (.ofScript content)) record =
        ContentRule.safety.check (.ofDisk (.ofScript newContent)) record ∧
      ContentRule.traps.check (.ofDisk (.ofScript content)) record =
        ContentRule.traps.check (.ofDisk (.ofScript newContent)) record := by
  intro record content newContent
  let line : GappedLine := ⟨[], .set, "-euf".toList, List.forall_mem_nil _⟩
  let gap : Gap := ⟨[' '], by decide, by simp⟩
  let newGap : Gap := ⟨[' ', '\t'], by decide, by simp⟩
  have lines : scriptLines content =
      ["#!/bin/sh".toList] ++ line.text gap :: ["trap - 0".toList] :=
    (scriptLines_asciiBytes (by decide)).trans (by decide)
  have newLines : scriptLines newContent =
      ["#!/bin/sh".toList] ++ line.text newGap :: ["trap - 0".toList] :=
    (scriptLines_asciiBytes (by decide)).trans (by decide)
  have read : (World.ofDisk (.ofScript content)).ReadsAs record.path content :=
    World.readsAs_ofScript content
  have readToo : (World.ofDisk (.ofScript newContent)).ReadsAs record.path newContent :=
    World.readsAs_ofScript newContent
  have safety : line.SeenBy gap .safety ↔ line.SeenBy newGap .safety := by
    simp [GappedLine.SeenBy, gap, newGap]
  have noFlag : startsWithErrtraceFlag line.arguments = false := by decide
  have traps : line.SeenBy gap .traps ↔ line.SeenBy newGap .traps := by
    simp [GappedLine.SeenBy, gap, newGap, noFlag]
  exact ⟨(gap_replaced .safety read readToo lines newLines).1 safety,
    (gap_replaced .traps read readToo lines newLines).1 traps⟩

/-- A tab in place of the space hides a `set` command from one rule and a trap from the other. -/
theorem tab_hides_commands :
    let record : Record := { path := "deploy", posix := true, interpreter := .ofName "sh" }
    let content := asciiBytes "set -euf\ntrap - 0\n".toList
    let flags := asciiBytes "set\t-euf\ntrap - 0\n".toList
    let trap := asciiBytes "set -euf\ntrap\t- 0\n".toList
    ContentRule.safety.check (.ofDisk (.ofScript content)) record = .ok [] ∧
      ContentRule.safety.check (.ofDisk (.ofScript flags)) record =
        .ok [Kinds.noSafetyFlags.atLine record.path 1] ∧
      ContentRule.traps.check (.ofDisk (.ofScript content)) record =
        .ok [Kinds.subshellTraps.inFile record.path] ∧
      ContentRule.traps.check (.ofDisk (.ofScript trap)) record = .ok [] := by
  intro record content flags trap
  have lines : scriptLines content = ["set -euf".toList, "trap - 0".toList] :=
    (scriptLines_asciiBytes (by decide)).trans (by decide)
  have flagsLines : scriptLines flags = ["set\t-euf".toList, "trap - 0".toList] :=
    (scriptLines_asciiBytes (by decide)).trans (by decide)
  have trapLines : scriptLines trap = ["set -euf".toList, "trap\t- 0".toList] :=
    (scriptLines_asciiBytes (by decide)).trans (by decide)
  have read (content : Bytes) : (World.ofDisk (.ofScript content)).ReadsAs record.path content :=
    World.readsAs_ofScript content
  have asked : ContentRule.safety.topKind? = some Kinds.noSafetyFlags := rfl
  have posix : record.posix = true := rfl
  have noLibrary : record.library = false := rfl
  have applies : ContentRule.traps.applies record = true := rfl
  have inspect : ContentRule.traps.inspect record = trapFindings record := rfl
  have dialect : TrapDialect.ofName record.interpreterName = .other := by decide +kernel
  have execs : execNumbers ["set -euf".toList, "trap - 0".toList] = [] := by decide
  refine ⟨?_, ?_, ?_, ?_⟩
  · rw [ContentRule.check_silent_iff asked posix noLibrary (read content), lines]
    decide
  · rw [ContentRule.check_reports_iff asked posix noLibrary (read flags), flagsLines]
    decide
  · rw [ContentRule.check_readsAs applies (read content), lines, inspect,
      trapFindings_of_setsTrap (by decide), execFindings, execs, dialectFindings_eq, dialect]
    rfl
  · rw [ContentRule.check_readsAs applies (read trap), trapLines, inspect, trapFindings_eq]
    exact congrArg Except.ok (if_neg (by decide))

end ShellSurvey
