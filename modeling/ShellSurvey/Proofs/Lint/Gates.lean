import Mathlib.Data.List.Basic
import ShellSurvey.Proofs.Lint.Guarded

namespace ShellSurvey

/-- What each rule on content gets when it asks for the lines of the script. -/
abbrev Readings := ContentRule → Except Refusal (List Line)

/-- A lint with the rules that asked for the lines of the script, in their order. -/
structure LintCourse where
  lint : Lint
  readers : List ContentRule

/-- The course once a rule has asked for the lines, with what it found. -/
def LintCourse.ask (course : LintCourse) (rule : ContentRule) (findings : List Finding)
    (log : List LogLine) : LintCourse where
  lint := { course.lint with
    findings := foldFindings course.lint.findings findings
    log := course.lint.log ++ log }
  readers := course.readers ++ [rule]

/-- What the rules on content get on the disk that the tool leaves behind. -/
def World.readings (world : World) (record : Record) : Readings := fun _ =>
  let disk := afterTool world.disk record.path (checkValidity world record).removed
  readLines { world with disk := disk } record.path

/-- The way through the rules on content, step by step. -/
inductive Reads (readings : Readings) (record : Record) :
    LintCourse → List ContentRule → LintCourse → Prop where
  | done (course : LintCourse) : Reads readings record course [] course
  | passed {course ended : LintCourse} {rule : ContentRule} {rules : List ContentRule}
      (spared : rule.applies record = false) (later : Reads readings record course rules ended) :
      Reads readings record course (rule :: rules) ended
  | served {course ended : LintCourse} {rule : ContentRule} {rules : List ContentRule}
      {lines : List Line} (applies : rule.applies record = true)
      (given : readings rule = .ok lines)
      (later : Reads readings record (course.ask rule (rule.inspect record lines) []) rules ended) :
      Reads readings record course (rule :: rules) ended
  | refused {course : LintCourse} {rule : ContentRule} {rules : List ContentRule}
      {error : FileError} (applies : rule.applies record = true)
      (failed : readings rule = .error (.failed error)) :
      Reads readings record course (rule :: rules)
        (course.ask rule [unreadableFinding record.path error] [unreadableNote record.path error])

section

variable {readings : Readings} {record : Record}

variable {course ended : LintCourse} {rules : List ContentRule}

theorem Reads.commands (reads : Reads readings record course rules ended) :
    ended.lint.commands = course.lint.commands := by
  induction reads with
  | done => rfl
  | passed _ _ ih => exact ih
  | served _ _ _ ih => exact ih
  | refused => rfl

/-- The script is asked for by rules that apply to it, in their order. -/
theorem Reads.readers (reads : Reads readings record course rules ended) :
    ∃ later, ended.readers = course.readers ++ later ∧ later.Sublist rules ∧
      ∀ rule ∈ later, rule.applies record = true := by
  induction reads with
  | done course => exact ⟨[], by simp⟩
  | passed _ _ ih =>
    obtain ⟨later, after, within, apply⟩ := ih
    exact ⟨later, after, within.cons _, apply⟩
  | @served course ended rule rules lines applies _ _ ih =>
    obtain ⟨later, after, within, apply⟩ := ih
    refine ⟨rule :: later, ?_, within.cons_cons _, List.forall_mem_cons.mpr ⟨applies, apply⟩⟩
    rw [after, LintCourse.ask, List.append_assoc, List.singleton_append]
  | @refused course rule rules error applies _ =>
    exact ⟨[rule], rfl, List.singleton_sublist.mpr List.mem_cons_self,
      List.forall_mem_singleton.mpr applies⟩

theorem ContentRule.posix_of_applies {rule : ContentRule} (applies : rule.applies record = true) :
    record.posix = true := by
  unfold ContentRule.applies at applies
  cases rule with
  | ifs | safety => exact (Bool.and_eq_true_iff.mp applies).1
  | traps => exact applies

/-- No rule on content looks at a script that is not POSIX. -/
theorem Reads.idle (reads : Reads readings record course rules ended)
    (other : record.posix = false) : ended = course := by
  induction reads with
  | done => rfl
  | passed _ _ ih => exact ih
  | served applies | refused applies =>
    rw [ContentRule.posix_of_applies applies] at other
    cases other

end

section

variable {world : World} {record : Record}

/-- The course as it stands once the validity of a script is checked. -/
def validityCourse (world : World) (options : LintOptions) (record : Record) : LintCourse :=
  let validity := checkValidity world record
  { lint :=
      { findings := foldFindings (propertyFindings options record) validity.findings
        log := []
        commands := validity.command.toList
        disk := afterTool world.disk record.path validity.removed
        broken := validity.broken }
    readers := [] }

theorem lintRecord_eq (world : World) (options : LintOptions) (lintable : record.lintable = true) :
    lintRecord world options record =
      if (checkValidity world record).passed then
        checkContent { world with
            disk := afterTool world.disk record.path (checkValidity world record).removed }
          record (validityCourse world options record).lint [.ifs, .safety, .traps]
      else (validityCourse world options record).lint := if_pos lintable

end

/-- A world where every program can be found and is run alike. -/
def World.ofTool (tool : Tool) : World where
  disk := .empty
  faults := fun _ _ => none
  tools := fun _ => some tool

/-- A world that has every tool, each of which accepts every script. -/
def lenient : World := .ofTool fun _ _ => .answered {}

/-- A world that has every tool, each of which accepts every script whose path is not refused as such. -/
def strict : World := .ofTool fun _ command =>
  if command.any holdsNul then .unlaunched .nulInPath else .answered {}

/-- A byte in the errors of a tool that no text begins with. -/
def strayByte : Malformation := ⟨0, 1, 0xE9, .badContinuation⟩

/-- A world that has every tool, each of which writes what is no text. -/
def garbling : World := .ofTool fun _ _ => .garbled strayByte false

/-- A script whose path is refused as such. -/
def tornScript : Record :=
  { path := "a\x00b", posix := true, interpreter := .known "sh", shebang := "#!/bin/sh" }

end ShellSurvey
