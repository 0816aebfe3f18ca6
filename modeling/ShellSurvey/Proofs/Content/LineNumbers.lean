import ShellSurvey.Proofs.Content.Traps
import ShellSurvey.Proofs.Text.LinePlaces

namespace ShellSurvey

/-- What is wrong with a line that a rule on content reports. -/
def ContentRule.Offends (rule : ContentRule) (line : Line) : Prop :=
  match rule with
  | .ifs => isIfsUnset line = false ∧ isBeforeIfs line = false ∧ isIfsAssignment line = false
  | .safety => trim line ≠ [] ∧ isComment (trim line) = false ∧
      startsWith "IFS" (trim line) = false ∧ startsWith "unset" (trim line) = false ∧
      isSetStatement (trim line) = false
  | .traps => ReplacesShell (trim line)

/-- A line with something that a rule reports, at an index. -/
def ContentRule.OffendedAt (rule : ContentRule) (lines : List Line) (index : Nat) : Prop :=
  ∃ line, lines[index]? = some line ∧ rule.Offends line

section

variable {lines : List Line} {number start : Nat}

theorem ifsOffence_some (found : ifsOffence start lines = some number) :
    ∃ index, number = index + start ∧ ContentRule.ifs.OffendedAt lines index := by
  induction lines generalizing start with
  | nil => cases found
  | cons line lines ih =>
    unfold ifsOffence at found
    split at found
    · cases found
    next noUnset =>
    split at found
    · obtain ⟨index, same, later⟩ := ih found
      exact ⟨index + 1, by omega, later⟩
    next noLead =>
    split at found
    · cases found
    next noReset =>
    cases found
    simp only [Bool.not_eq_true] at noUnset noLead noReset
    exact ⟨0, (Nat.zero_add _).symm, line, rfl, noUnset, noLead, noReset⟩

theorem firstLineFrom_some {passedOver : Line → Bool} {statement : Line}
    (found : firstLineFrom start passedOver lines = some (number, statement)) :
    ∃ index, number = index + start ∧ lines[index]? = some statement ∧
      passedOver statement = false := by
  induction lines generalizing start with
  | nil => cases found
  | cons line lines ih =>
    unfold firstLineFrom at found
    split at found
    · obtain ⟨index, same, later⟩ := ih found
      exact ⟨index + 1, by omega, later⟩
    · next kept =>
      cases found
      exact ⟨0, (Nat.zero_add _).symm, rfl, Bool.eq_false_iff.mpr kept⟩

theorem safetyOffence_some (found : safetyOffence lines = some number) :
    ∃ index, number = index + 1 ∧ ContentRule.safety.OffendedAt lines index := by
  unfold safetyOffence at found
  split at found
  · next statement first =>
    split at found
    · cases found
    next noSet =>
    cases found
    obtain ⟨index, same, there, kept⟩ := firstLineFrom_some first
    rw [List.getElem?_map, Option.map_eq_some_iff] at there
    obtain ⟨line, there, rfl⟩ := there
    refine ⟨index, same, line, there, ?_⟩
    simpa [ContentRule.Offends, noSet, and_assoc] using kept
  · cases found

/-- What a finding on traps gives the numbers of are `exec` statements. -/
theorem TrapReport.exec_of_mem_lines {dialect : TrapDialect} {path : String}
    {findings : List Finding} (report : TrapReport dialect path lines findings) {finding : Finding}
    (member : finding ∈ findings) {line : Int} (listed : line ∈ finding.lines) :
    ∃ (number : Nat) (statement : Line), line = number ∧
      StatementAt lines number statement ∧ ReplacesShell statement := by
  cases report with
  | untrapped => cases member
  | trapped _ first after =>
    rcases List.mem_append.mp member with exec | other
    · cases first with
      | none => cases exec
      | once numbers _ _ all =>
        cases List.mem_singleton.mp exec
        obtain ⟨number, known, rfl⟩ := List.mem_map.mp listed
        obtain ⟨statement, placed⟩ := (all number).mp known
        exact ⟨number, statement, rfl, placed⟩
    · cases after with
      | spared => cases other
      | offended =>
        cases List.mem_singleton.mp other
        cases listed

end

/-- Every number in a finding belongs to a line with something to report. -/
theorem ContentRule.offendedAt_of_mem_lines {rule : ContentRule} {record : Record}
    {lines : List Line} {finding : Finding} (member : finding ∈ rule.inspect record lines)
    {number : Int} (listed : number ∈ finding.lines) :
    ∃ index : Nat, number = index + 1 ∧ rule.OffendedAt lines index := by
  cases rule with
  | ifs =>
    obtain ⟨line, found, rfl⟩ := List.mem_map.mp member
    obtain ⟨index, rfl, there⟩ := ifsOffence_some (Option.mem_toList.mp found)
    exact ⟨index, List.mem_singleton.mp listed, there⟩
  | safety =>
    obtain ⟨line, found, rfl⟩ := List.mem_map.mp member
    obtain ⟨index, rfl, there⟩ := safetyOffence_some (Option.mem_toList.mp found)
    exact ⟨index, List.mem_singleton.mp listed, there⟩
  | traps =>
    have report : TrapReport (.ofName record.interpreterName) record.path lines
        (trapFindings record lines) := trapFindings_report
    obtain ⟨number, statement, rfl, ⟨index, line, there, rfl, rfl, _⟩, exec⟩ :=
      report.exec_of_mem_lines member listed
    exact ⟨index, rfl, line, there, exec⟩

/-- All breaks of a text are line feeds if there are no more breaks than line feeds. -/
theorem countP_isLineBreak_eq_count_iff {text : List Char} :
    text.countP isLineBreak = text.count '\n' ↔ ∀ c ∈ text, isLineBreak c = true → c = '\n' := by
  have feed : isLineBreak '\n' = true := by decide
  induction text with
  | nil => exact iff_of_true rfl (List.forall_mem_nil _)
  | cons c text ih =>
    have fewer : text.count '\n' ≤ text.countP isLineBreak :=
      List.countP_mono_left fun d _ same => by rw [beq_iff_eq.mp same, feed]
    rw [List.forall_mem_cons]
    by_cases same : c = '\n'
    · rw [same, List.countP_cons_of_pos feed, List.count_cons_self, Nat.add_right_cancel_iff]
      exact ih.trans (and_iff_right fun _ => rfl).symm
    rw [List.count_cons_of_ne same]
    cases broken : isLineBreak c with
    | true =>
      rw [List.countP_cons_of_pos broken]
      exact iff_of_false (by omega) fun all => same (all.1 rfl)
    | false =>
      rw [List.countP_cons_of_neg (Bool.eq_false_iff.mp broken)]
      exact ih.trans (and_iff_right nofun).symm

/-- The rules on content number a line by the breaks before it. If and only if these are all line feeds,
that is the number of the line in the file. -/
theorem numbers_count_breaks {world : World} {record : Record} {content : Bytes}
    (read : world.ReadsAs record.path content) (noReturn : carriageReturn ∉ content)
    (rule : ContentRule) :
    ∃ findings, rule.check world record = .ok findings ∧
      ∀ finding ∈ findings, ∀ number ∈ finding.lines, ∃ before line after,
        LineIn (decodeLossy content) before line after ∧ rule.Offends line ∧
        number = before.countP isLineBreak + 1 ∧
        (number = before.count '\n' + 1 ↔ ∀ c ∈ before, isLineBreak c = true → c = '\n') := by
  cases applies : rule.applies record with
  | false => exact ⟨[], ContentRule.check_spared applies, List.forall_mem_nil _⟩
  | true =>
    refine ⟨_, ContentRule.check_readsAs applies read, fun finding member number listed => ?_⟩
    obtain ⟨index, rfl, line, there, offends⟩ := ContentRule.offendedAt_of_mem_lines member listed
    have textFree : '\r' ∉ decodeLossy content := fun inside =>
      noReturn (return_mem_of_mem_decodeLossy inside)
    obtain ⟨before, after, place, rfl⟩ := splitLines_placedIn textFree index line there
    refine ⟨before, line, after, place, offends, rfl, ?_⟩
    rw [← countP_isLineBreak_eq_count_iff]
    omega

/-- With line feeds only, the number is that of the line in the file. -/
theorem numbers_count_breaks_feeds :
    let record : Record := { path := "deploy", posix := true, interpreter := .ofName "sh" }
    let content := asciiBytes "#!/bin/sh\necho hi\n".toList
    carriageReturn ∉ content ∧
      ContentRule.ifs.check (.ofDisk (.ofScript content)) record =
        .ok [Kinds.ifsNotReset.atLine "deploy" 2] ∧
      ∃ before line after, LineIn (decodeLossy content) before line after ∧
        ContentRule.ifs.Offends line ∧ (2 : Int) = before.countP isLineBreak + 1 := by
  intro record content
  have noReturn : carriageReturn ∉ content := by decide
  have read : (World.ofDisk (.ofScript content)).ReadsAs record.path content :=
    World.readsAs_ofScript content
  have lines : scriptLines content = ["#!/bin/sh".toList, "echo hi".toList] :=
    (scriptLines_asciiBytes (by decide)).trans (by decide)
  have given : ContentRule.ifs.check (.ofDisk (.ofScript content)) record =
      .ok [Kinds.ifsNotReset.atLine "deploy" 2] := by
    rw [ContentRule.check_readsAs rfl read, lines]
    rfl
  obtain ⟨findings, checked, numbered⟩ := numbers_count_breaks read noReturn .ifs
  rw [given] at checked
  cases checked
  obtain ⟨before, line, after, place, offends, number, _⟩ :=
    numbered _ (List.mem_singleton_self _) 2 (List.mem_singleton_self _)
  exact ⟨noReturn, given, before, line, after, place, offends, number⟩

/-- A form feed at the end of a comment moves the numbers of all lines behind it: no offence is on the line
with the number that is reported. -/
theorem form_feed_counts :
    let record : Record := { path := "deploy", posix := true, interpreter := .ofName "sh" }
    let content := asciiBytes "#!/bin/sh\n# Part one\x0c\necho hi\n".toList
    carriageReturn ∉ content ∧
      ContentRule.ifs.check (.ofDisk (.ofScript content)) record =
        .ok [Kinds.ifsNotReset.atLine "deploy" 4] ∧
      ∀ before line after, LineIn (decodeLossy content) before line after →
        ContentRule.ifs.Offends line → (4 : Int) ≠ before.count '\n' + 1 := by
  intro record content
  have text : decodeLossy content = "#!/bin/sh\n# Part one\x0c\necho hi\n".toList :=
    decodeLossy_asciiBytes (by decide)
  have lines : scriptLines content =
      ["#!/bin/sh".toList, "# Part one".toList, [], "echo hi".toList] := by
    rw [scriptLines, text]
    decide
  refine ⟨by decide, ?_, fun before line after place offends number => ?_⟩
  · rw [ContentRule.check_readsAs rfl (World.readsAs_ofScript content), lines]
    rfl
  -- All three line feeds would stand before the line, which leaves nothing for the line itself.
  have parts := place.parts
  rw [text] at parts
  have feeds := congrArg (List.count '\n') parts
  have total : "#!/bin/sh\n# Part one\x0c\necho hi\n".toList.count '\n' = 3 := by decide
  rw [total, List.append_assoc, List.count_append] at feeds
  have none : '\n' ∉ line ++ after := List.count_eq_zero.mp (by omega)
  have last : "#!/bin/sh\n# Part one\x0c\necho hi\n".toList.getLast? = some '\n' := by decide
  rw [parts, List.append_assoc, List.getLast?_append] at last
  cases ending : (line ++ after).getLast? with
  | none =>
    obtain ⟨rfl, -⟩ := List.append_eq_nil_iff.mp (List.getLast?_eq_none_iff.mp ending)
    exact absurd offends.2.1 (by decide)
  | some c =>
    rw [ending] at last
    cases last
    exact none (List.mem_of_getLast? ending)

end ShellSurvey
