import ShellSurvey.Proofs.Content.Words

namespace ShellSurvey

/-- The characters of ordinary command names. -/
def isNameChar (c : Char) : Bool := c.isLower || c = '_'

structure CommandName where
  letters : Line
  nonempty : letters ≠ []
  plain : letters.all isNameChar = true

section

variable {c : Char} (named : isNameChar c = true)
include named

theorem toNat_of_isNameChar : 0x5F ≤ c.toNat ∧ c.toNat ≤ 0x7A := by
  rw [isNameChar, Bool.or_eq_true, decide_eq_true_eq] at named
  rcases named with small | rfl
  · have bounds : (decide (c.val ≥ 'a'.val) && decide (c.val ≤ 'z'.val)) = true := small
    rw [Bool.and_eq_true, decide_eq_true_eq, decide_eq_true_eq] at bounds
    have lower : 0x61 ≤ c.toNat := bounds.1
    exact ⟨by omega, bounds.2⟩
  · decide

theorem visible_of_isNameChar : isBlank c = false := by
  obtain ⟨lower, upper⟩ := toNat_of_isNameChar named
  simp only [isBlank, Bool.or_eq_false_iff, Bool.and_eq_false_iff, decide_eq_false_iff_not,
    beq_eq_false_iff_ne]
  omega

theorem ne_of_isNameChar {sign : Char} (small : sign.toNat < 0x5F) : c ≠ sign := by
  rintro rfl
  have lower := (toNat_of_isNameChar named).1
  omega

end

namespace CommandName

variable (name : CommandName)

theorem isNameChar_of_mem {c : Char} (member : c ∈ name.letters) : isNameChar c = true :=
  List.all_eq_true.mp name.plain c member

theorem isWord : IsWord name.letters where
  nonempty := name.nonempty
  unblank := fun _ member => visible_of_isNameChar (name.isNameChar_of_mem member)
  noComment := fun member =>
    ne_of_isNameChar (name.isNameChar_of_mem member) (by decide) rfl

theorem head?_ne {sign : Char} (small : sign.toNat < 0x5F) : name.letters.head? ≠ some sign :=
  fun first =>
    ne_of_isNameChar (name.isNameChar_of_mem (List.mem_of_mem_head? first)) small rfl

end CommandName

/-- The words that a rule on the top of a script does not mind. -/
def ContentRule.skippedWords : ContentRule → List String
  | .ifs => ["set", "unset"]
  | .safety => ["IFS", "unset"]
  | .traps => []

/-- A rule takes a command for one that it does not mind. -/
def CommandName.SkippedBy (name : CommandName) (rule : ContentRule) : Prop :=
  ∃ word ∈ rule.skippedWords, word.toList <+: name.letters

/-- A line that may stand above the first command of a script. -/
def Skippable (line : Line) : Prop := (∀ c ∈ line, isBlank c = true) ∨ isComment line = true

/-- The words of a rule hold no space, so behind the first word of a line they are not found. -/
theorem prefixed_command_iff {rule : ContentRule} {name : CommandName} {tail : Line}
    (ends : EndsWord tail) :
    (∃ word ∈ rule.skippedWords, word.toList <+: name.letters ++ tail) ↔ name.SkippedBy rule := by
  have noSpace : ∀ word ∈ rule.skippedWords, ' ' ∉ word.toList := by
    cases rule <;> decide
  exact exists_congr fun word => and_congr_right fun member =>
    prefix_word_iff ends (noSpace word member)

/-- Of all commands, only `unset` itself resets the separators. -/
theorem IsWord.eq_unset {word tail : Line} (solid : IsWord word) (ends : EndsWord tail)
    (unset : isIfsUnset (word ++ tail) = true) : word = "unset".toList := by
  have kept : (word ++ tail).dropWhile isBlank = word ++ tail := by
    obtain ⟨c, front, rfl⟩ := List.exists_cons_of_ne_nil solid.nonempty
    exact List.dropWhile_cons_of_neg (by simp [solid.unblank c List.mem_cons_self])
  rw [isIfsUnset, kept] at unset
  cases found : after? "unset" (word ++ tail) with
  | none =>
    rw [found] at unset
    cases unset
  | some behind =>
    have parts := after?_eq_some_iff.mp found
    obtain ⟨more, rfl⟩ := (prefix_word_iff ends (by decide)).mp ⟨behind, parts.symm⟩
    rw [List.append_assoc, List.append_cancel_left_eq] at parts
    cases more with
    | nil => rw [List.append_nil]
    | cons c more =>
      have visible : isBlank c = false := solid.unblank c (by simp)
      have none : afterBlanks? behind = Option.none := by
        rw [← parts, List.cons_append, afterBlanks?, visible]
        rfl
      rw [found, Option.bind_some, none] at unset
      cases unset

section

variable {rule : ContentRule} {kind : FindingKind} (asked : rule.topKind? = some kind)
include asked

theorem Skippable.verdict {line : Line} (skippable : Skippable line) :
    rule.verdict line = .passed := by
  rcases skippable with blank | comment
  · cases rule with
    | ifs => exact ifsVerdict_blank blank
    | safety => exact safetyVerdict_blank blank
    | traps => cases asked
  · rw [isComment, beq_iff_eq] at comment
    obtain ⟨text, rfl⟩ := List.head?_eq_some_iff.mp comment
    cases rule with
    | ifs => exact ifsVerdict_comment text
    | safety => exact safetyVerdict_comment (List.forall_mem_nil _) text
    | traps => cases asked

/-- A command other than `set` and `unset` is passed over or reported. -/
theorem CommandName.verdict {name : CommandName} {tail : Line} (ends : EndsWord tail)
    (noSet : name.letters ≠ "set".toList) (noUnset : name.letters ≠ "unset".toList) :
    (name.SkippedBy rule → rule.verdict (name.letters ++ tail) = .passed) ∧
      (¬ name.SkippedBy rule → rule.verdict (name.letters ++ tail) = .offence) := by
  cases rule with
  | ifs =>
    have unset : isIfsUnset (name.letters ++ tail) = false :=
      Bool.eq_false_iff.mpr fun unset => noUnset (name.isWord.eq_unset ends unset)
    rw [← prefixed_command_iff ends]
    exact ⟨ifsVerdict_skipped name.isWord unset,
      ifsVerdict_command name.isWord unset (name.head?_ne (by decide))⟩
  | safety =>
    have whole : name.letters ++ clinging (trimEnd tail) = name.letters := by
      rw [clinging_eq_nil ends.trimEnd, List.append_nil]
    rw [← prefixed_command_iff ends.trimEnd]
    refine ⟨safetyVerdict_skipped name.isWord (List.forall_mem_nil _), fun kept => ?_⟩
    have judged := safetyVerdict_command name.isWord (List.forall_mem_nil _) kept
    rw [whole, if_neg noSet] at judged
    exact judged
  | traps => cases asked

end

/-- The first command of a script, if it is neither `set` nor `unset`, is reported by a rule on the top of
scripts, if and only if the rule does not take it for another one. If it does, it finds what it would find
with an empty line in place of the command. -/
theorem first_command_judged {world : World} {record : Record} {content : Bytes}
    {rule : ContentRule} {kind : FindingKind} {top rest : List Line} {name : CommandName}
    {tail : Line} (asked : rule.topKind? = some kind) (posix : record.posix = true)
    (noLibrary : record.library = false) (read : world.ReadsAs record.path content)
    (lines : scriptLines content = top ++ (name.letters ++ tail) :: rest)
    (skippable : ∀ line ∈ top, Skippable line) (ends : EndsWord tail)
    (noSet : name.letters ≠ "set".toList) (noUnset : name.letters ≠ "unset".toList) :
    (rule.check world record = .ok [kind.atLine record.path (top.length + 1)] ↔
        ¬ name.SkippedBy rule) ∧
      (name.SkippedBy rule →
        rule.check world record = .ok (rule.inspect record (top ++ [] :: rest))) := by
  have passed : ∀ line ∈ top, rule.verdict line = .passed := fun line member =>
    (skippable line member).verdict asked
  have verdict := CommandName.verdict asked ends noSet noUnset
  have found : firstOffence rule.verdict 1 (scriptLines content) =
      firstOffence rule.verdict (1 + top.length) ((name.letters ++ tail) :: rest) := by
    rw [lines, firstOffence_append passed]
  refine ⟨?_, fun skipped => ?_⟩
  · rw [ContentRule.check_reports_iff asked posix noLibrary read, found]
    refine ⟨fun reported skipped => ?_, fun kept => ?_⟩
    · rw [firstOffence, verdict.1 skipped] at reported
      have later := le_of_firstOffence reported
      omega
    · have offence := verdict.2 kept
      rw [firstOffence_stop (by simp [offence]), if_pos offence, Nat.add_comm]
  · have empty : rule.verdict [] = .passed :=
      Skippable.verdict asked (Or.inl (List.forall_mem_nil _))
    have same := (verdict.1 skipped).trans empty.symm
    rw [ContentRule.check_top asked posix noLibrary read, ← ContentRule.inspect_top asked, lines,
      ContentRule.inspect_replaced asked record top rest same]

/-- Both rules report a script that starts with a greeting. -/
theorem first_command_judged_echo :
    let record : Record := { path := "deploy", posix := true, interpreter := .ofName "sh" }
    let content := asciiBytes "#!/bin/sh\n\necho hi\nset -euf\n".toList
    record.library = false ∧
      ContentRule.ifs.check (.ofDisk (.ofScript content)) record =
        .ok [Kinds.ifsNotReset.atLine record.path 3] ∧
      ContentRule.safety.check (.ofDisk (.ofScript content)) record =
        .ok [Kinds.noSafetyFlags.atLine record.path 3] := by
  intro record content
  let name : CommandName := ⟨"echo".toList, by decide, by decide⟩
  have lines : scriptLines content =
      ["#!/bin/sh".toList, []] ++ (name.letters ++ " hi".toList) :: ["set -euf".toList] :=
    (scriptLines_asciiBytes (by decide)).trans (by decide)
  have posix : record.posix = true := rfl
  have noLibrary : record.library = false := rfl
  have skippable : ∀ line ∈ ["#!/bin/sh".toList, []], Skippable line := by
    simp [Skippable, isComment]
  have read : (World.ofDisk (.ofScript content)).ReadsAs record.path content :=
    World.readsAs_ofScript content
  have kept (rule : ContentRule) : ¬ name.SkippedBy rule := by
    cases rule <;> simp [CommandName.SkippedBy, ContentRule.skippedWords, name]
  have reported (rule : ContentRule) (kind : FindingKind) (asked : rule.topKind? = some kind) :=
    (first_command_judged asked posix noLibrary read lines skippable (endsWord_space _)
      (by simp [name]) (by simp [name])).1.mpr (kept rule)
  exact ⟨noLibrary, reported .ifs _ rfl, reported .safety _ rfl⟩

/-- Neither rule has anything to say about a script whose only command starts with `unset`. -/
theorem unset_all_passed_over :
    let record : Record := { path := "deploy", posix := true, interpreter := .ofName "sh" }
    let content := asciiBytes "#!/bin/sh\nunset_all\n".toList
    ∃ name : CommandName, name.letters ≠ "set".toList ∧ name.letters ≠ "unset".toList ∧
      scriptLines content = ["#!/bin/sh".toList, name.letters] ∧ record.library = false ∧
      ContentRule.ifs.check (.ofDisk (.ofScript content)) record = .ok [] ∧
      ContentRule.safety.check (.ofDisk (.ofScript content)) record = .ok [] := by
  intro record content
  let name : CommandName := ⟨"unset_all".toList, by decide, by decide⟩
  have lines : scriptLines content = ["#!/bin/sh".toList, name.letters ++ []] :=
    (scriptLines_asciiBytes (by decide)).trans (by decide)
  have posix : record.posix = true := rfl
  have noLibrary : record.library = false := rfl
  have read : (World.ofDisk (.ofScript content)).ReadsAs record.path content :=
    World.readsAs_ofScript content
  have noSet : name.letters ≠ "set".toList := by simp [name]
  have noUnset : name.letters ≠ "unset".toList := by simp [name]
  have silent (rule : ContentRule) (kind : FindingKind) (asked : rule.topKind? = some kind)
      (skipped : name.SkippedBy rule) :
      rule.check (.ofDisk (.ofScript content)) record = .ok [] := by
    have shebang : rule.verdict "#!/bin/sh".toList = .passed :=
      Skippable.verdict asked (Or.inr rfl)
    have command := (CommandName.verdict asked endsWord_nil noSet noUnset).1 skipped
    rw [ContentRule.check_silent_iff asked posix noLibrary read, lines, firstOffence, shebang]
    dsimp only
    rw [firstOffence, command]
    rfl
  exact ⟨name, noSet, noUnset, lines, noLibrary,
    silent .ifs _ rfl ⟨"unset", by simp [ContentRule.skippedWords], "_all".toList, rfl⟩,
    silent .safety _ rfl ⟨"unset", by simp [ContentRule.skippedWords], "_all".toList, rfl⟩⟩

end ShellSurvey
