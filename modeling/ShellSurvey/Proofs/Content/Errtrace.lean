import ShellSurvey.Proofs.Content.Traps
import ShellSurvey.Proofs.Script.SpacedWords

namespace ShellSurvey

/-- A cluster of flags: one dash and letters. -/
def IsCluster (word : Line) : Prop :=
  ∃ letters, letters ≠ [] ∧ letters.all Char.isAlpha = true ∧ word = '-' :: letters

/-- Options that make functions inherit traps on errors: the flag `E` in some cluster, or the name
`errtrace` behind a cluster that ends with `o`. -/
def RequestsErrtrace (options : List Line) : Prop :=
  (∃ cluster ∈ options, IsCluster cluster ∧ 'E' ∈ cluster) ∨
    ∃ front cluster back, options = front ++ cluster :: "errtrace".toList :: back ∧
      IsCluster cluster ∧ cluster.getLast? = some 'o'

/-- The words of a statement between spaces. -/
def statementWords (statement : Line) : List Line := (splitAt ' ' statement).filter (· ≠ [])

/-- A `set` command with such options, which end at two dashes. -/
def AsksForErrtrace (statement : Line) : Prop :=
  ∃ words, statementWords statement = "set".toList :: words ∧
    RequestsErrtrace (words.takeWhile (· ≠ "--".toList))

/-- A `set` command with one space in front of each word. An empty word stands for a further space. -/
def setCommand (words : List Line) : Line := "set ".toList ++ joinWith [' '] words

theorem SetsErrtrace.of_flags {flags : Line} : SetsErrtrace ("set ".toList ++ flags) ↔
    startsWithErrtraceFlag flags = true ∨ endsWithErrtraceWord flags = true := by
  rw [startsWithErrtraceFlag_iff, endsWithErrtraceWord_iff]
  constructor
  · rintro ⟨others, same, flagged⟩
    rwa [← List.append_cancel_left same] at flagged
  · exact fun flagged => ⟨flags, rfl, flagged⟩

/-- The flag is looked for in what comes before the first blank. -/
theorem startsWithErrtraceFlag_takeWhile {line : Line} : startsWithErrtraceFlag line = true ↔
    (line.takeWhile fun c => !isBlank c).head? = some '-' ∧
      'E' ∈ line.takeWhile fun c => !isBlank c := by
  have visible : (!isBlank '-') = true := by decide
  unfold startsWithErrtraceFlag
  split
  · next rest => simp [List.takeWhile_cons_of_pos, visible]
  · next noDash =>
    refine iff_of_false nofun fun ⟨dash, _⟩ => ?_
    obtain ⟨tail, parts⟩ := List.head?_eq_some_iff.mp dash
    have whole := List.takeWhile_append_dropWhile (p := fun c => !isBlank c) (l := line)
    rw [parts] at whole
    exact noDash _ whole.symm

theorem joinWith_append_pair {α : Type} (separator : List α) (front : List (List α))
    (piece last : List α) : ∃ before,
      joinWith separator (front ++ [piece, last]) = before ++ piece ++ separator ++ last := by
  induction front with
  | nil => exact ⟨[], by simp [joinWith]⟩
  | cons first front ih =>
    obtain ⟨before, joined⟩ := ih
    refine ⟨first ++ separator ++ before, ?_⟩
    rw [List.cons_append, joinWith_cons _ _ (by simp), joined]
    simp

/-- What is put behind a text without a separator in it goes to the last piece. -/
theorem splitAt_append_free {α : Type} [DecidableEq α] {separator : α} (front : List α)
    {back : List α} (free : separator ∉ back) : ∃ pieces last,
      splitAt separator front = pieces ++ [last] ∧
        splitAt separator (front ++ back) = pieces ++ [last ++ back] := by
  induction front with
  | nil => exact ⟨[], [], rfl, splitAt_of_not_mem free⟩
  | cons x front ih =>
    obtain ⟨pieces, last, alone, together⟩ := ih
    rw [List.cons_append, splitAt_cons, splitAt_cons, alone, together]
    split
    · exact ⟨[] :: pieces, last, rfl, rfl⟩
    · cases pieces with
      | nil => exact ⟨[], x :: last, rfl, rfl⟩
      | cons piece pieces => exact ⟨(x :: piece) :: pieces, last, rfl, rfl⟩

section

variable {words : List Line} (solid : ∀ word ∈ words, Unblank word)
include solid

theorem takeWhile_joinWith : (joinWith [' '] words).takeWhile (fun c => !isBlank c) =
    words.headD [] := by
  cases words with
  | nil => rfl
  | cons first rest =>
    have visible : ∀ c ∈ first, (!isBlank c) = true := fun c inside => by
      rw [solid first List.mem_cons_self c inside]
      rfl
    cases rest with
    | nil => exact List.takeWhile_eq_self_iff.mpr visible
    | cons next rest =>
      rw [joinWith_cons _ _ (List.cons_ne_nil _ _), List.append_assoc,
        List.takeWhile_append_of_pos visible]
      exact List.append_nil _

theorem startsWithErrtraceFlag_joinWith : startsWithErrtraceFlag (joinWith [' '] words) = true ↔
    ∃ first rest, words = first :: rest ∧ first.head? = some '-' ∧ 'E' ∈ first := by
  rw [startsWithErrtraceFlag_takeWhile, takeWhile_joinWith solid]
  cases words <;> simp

/-- The name is looked for in the last word, behind one that may be a cluster. -/
theorem endsWithErrtraceWord_joinWith : endsWithErrtraceWord (joinWith [' '] words) = true ↔
    ∃ front cluster, words = front ++ [cluster, "errtrace".toList] ∧ '-' ∈ cluster ∧
      cluster.getLast? = some 'o' := by
  have name : "o errtrace".toList = 'o' :: ' ' :: "errtrace".toList := by decide
  rw [endsWithErrtraceWord_iff, name]
  constructor
  · rintro ⟨front, letters, run, joined⟩
    have spaceless {word : Line} (run : Unblank word) : ' ' ∉ word :=
      fun inside => absurd (run ' ' inside) (by decide)
    have nonempty : words ≠ [] := by
      rintro rfl
      simp [joinWith] at joined
    have closed : ' ' ∉ '-' :: letters ++ ['o'] := by simpa using spaceless run
    have regrouped : joinWith [' '] words =
        front ++ ('-' :: letters ++ ['o']) ++ ' ' :: "errtrace".toList := by
      rw [joined]
      simp
    have named : splitAt ' ' "errtrace".toList = ["errtrace".toList] := by decide
    obtain ⟨pieces, last, -, together⟩ := splitAt_append_free front closed
    have split := splitAt_joinWith nonempty fun word member => spaceless (solid word member)
    rw [regrouped, splitAt_append_separator, together, named, List.append_assoc] at split
    refine ⟨pieces, last ++ ('-' :: letters ++ ['o']), split.symm, by simp, ?_⟩
    rw [← List.append_assoc, List.getLast?_concat]
  · rintro ⟨front, cluster, rfl, dash, ending⟩
    obtain ⟨before, joined⟩ := joinWith_append_pair [' '] front cluster "errtrace".toList
    have run : Unblank cluster := solid cluster (by simp)
    obtain ⟨most, rfl⟩ := List.getLast?_eq_some_iff.mp ending
    have dash : '-' ∈ most := by simpa using dash
    obtain ⟨first, letters, rfl⟩ := List.append_of_mem dash
    refine ⟨before ++ first, letters, fun c inside => run c (by simp [inside]), ?_⟩
    rw [joined]
    simp

/-- Of a `set` command with single spaces, the rule looks at the first word for the flag and at the
last two for the name. -/
theorem setsErrtrace_setCommand : SetsErrtrace (setCommand words) ↔
    (∃ first rest, words = first :: rest ∧ first.head? = some '-' ∧ 'E' ∈ first) ∨
      ∃ front cluster, words = front ++ [cluster, "errtrace".toList] ∧ '-' ∈ cluster ∧
        cluster.getLast? = some 'o' := by
  rw [setCommand, SetsErrtrace.of_flags, startsWithErrtraceFlag_joinWith solid,
    endsWithErrtraceWord_joinWith solid]

end

theorem TrapDialect.ofName_bash {name : String} (bash : startsWith "bash" name.toList = true) :
    TrapDialect.ofName name = .bash := by
  have noZsh : name ≠ "zsh" := by
    rintro rfl
    exact absurd bash (by decide)
  rw [ofName, if_neg noZsh, if_pos bash]

/-- In a script for bash with a trap, no guard is missed if and only if there is one. -/
theorem TrapReport.errtrace_iff {path : String} {lines : List Line} {findings : List Finding}
    (report : TrapReport .bash path lines findings) (trap : HasStatement lines SetsTrap) :
    (∀ finding ∈ findings, finding.kind ≠ Kinds.bashErrtrace) ↔ HasStatement lines SetsErrtrace := by
  have apart : Kinds.execTraps ≠ Kinds.bashErrtrace := by decide
  have others {execs : List Finding} (reported : ExecsReported path lines execs) :
      ∀ finding ∈ execs, finding.kind ≠ Kinds.bashErrtrace := by
    cases reported with
    | none => exact List.forall_mem_nil _
    | once => exact List.forall_mem_singleton.mpr apart
  cases report with
  | untrapped free => exact absurd trap free
  | trapped _ first after =>
    cases after with
    | spared fine =>
      rw [List.append_nil]
      exact iff_of_true (others first) (not_not.mp fine)
    | offended offence =>
      refine iff_of_false (fun silent => ?_) offence
      exact silent _ (List.mem_append_right _ (List.mem_singleton_self _)) rfl

/-- In a script for bash with a trap, the rule reports missing error traces if and only if it recognises no
`set` command that asks for them. It recognises the flag in the first word of a command, and the name of
the option as the last word, with a word before it that ends like a cluster. -/
theorem errtrace_reported {world : World} {record : Record} {content : Bytes}
    (posix : record.posix = true) (bash : startsWith "bash" record.interpreterName.toList = true)
    (read : world.ReadsAs record.path content) (trap : HasStatement (scriptLines content) SetsTrap) :
    (∃ findings, ContentRule.traps.check world record = .ok findings ∧
      ((∀ finding ∈ findings, finding.kind ≠ Kinds.bashErrtrace) ↔
        HasStatement (scriptLines content) SetsErrtrace)) ∧
    ∀ words, (∀ word ∈ words, Unblank word) →
      (SetsErrtrace (setCommand words) ↔
        (∃ first rest, words = first :: rest ∧ first.head? = some '-' ∧ 'E' ∈ first) ∨
          ∃ front cluster, words = front ++ [cluster, "errtrace".toList] ∧ '-' ∈ cluster ∧
            cluster.getLast? = some 'o') := by
  refine ⟨⟨_, ContentRule.check_readsAs posix read, ?_⟩, fun _ => setsErrtrace_setCommand⟩
  have report : TrapReport (.ofName record.interpreterName) record.path (scriptLines content)
      (ContentRule.traps.inspect record (scriptLines content)) := trapFindings_report
  rw [TrapDialect.ofName_bash bash] at report
  exact report.errtrace_iff trap

/-- A trap that is guarded by the second flag of the first word. -/
theorem errtrace_reported_guarded :
    let record : Record := { path := "deploy", posix := true, interpreter := .ofName "bash" }
    let content := asciiBytes "set -eE\ntrap - 0\n".toList
    startsWith "bash" record.interpreterName.toList = true ∧
      HasStatement (scriptLines content) SetsTrap ∧
      ∃ findings, ContentRule.traps.check (.ofDisk (.ofScript content)) record = .ok findings ∧
        ∀ finding ∈ findings, finding.kind ≠ Kinds.bashErrtrace := by
  intro record content
  have posix : record.posix = true := rfl
  have lines : scriptLines content = ["set -eE".toList, "trap - 0".toList] :=
    (scriptLines_asciiBytes (by decide)).trans (by decide)
  have bash : startsWith "bash" record.interpreterName.toList = true := by decide +kernel
  have trap : HasStatement (scriptLines content) SetsTrap := by
    rw [← setsTrap_iff, lines]
    decide
  have guard : HasStatement (scriptLines content) SetsErrtrace := by
    rw [← any_statements fun _ => setsErrtrace_iff, lines]
    decide
  obtain ⟨⟨findings, checked, spared⟩, _⟩ :=
    errtrace_reported posix bash (World.readsAs_ofScript content) trap
  exact ⟨bash, trap, findings, checked, spared.mpr guard⟩

/-- The same flags as two words ask for error traces as well, yet the rule does not see the second one. -/
theorem errtrace_overlooked :
    let record : Record := { path := "deploy", posix := true, interpreter := .ofName "bash" }
    let content := asciiBytes "#!/bin/bash\nset -e -E\ntrap cleanup EXIT\n".toList
    startsWith "bash" record.interpreterName.toList = true ∧
      HasStatement (scriptLines content) SetsTrap ∧
      HasStatement (scriptLines content) AsksForErrtrace ∧
      ContentRule.traps.check (.ofDisk (.ofScript content)) record =
        .ok [Kinds.bashErrtrace.inFile "deploy"] := by
  intro record content
  have lines : scriptLines content =
      ["#!/bin/bash".toList, "set -e -E".toList, "trap cleanup EXIT".toList] :=
    (scriptLines_asciiBytes (by decide)).trans (by decide)
  have cluster : IsCluster "-E".toList := ⟨['E'], by decide, by decide, rfl⟩
  have asks : AsksForErrtrace "set -e -E".toList :=
    ⟨["-e".toList, "-E".toList], by decide, Or.inl ⟨"-E".toList, by decide, cluster, by decide⟩⟩
  have dialect : TrapDialect.ofName record.interpreterName = .bash := by decide +kernel
  have execs : execNumbers
      ["#!/bin/bash".toList, "set -e -E".toList, "trap cleanup EXIT".toList] = [] := by decide
  have inspect : ContentRule.traps.inspect record = trapFindings record := rfl
  refine ⟨by decide +kernel, ?_, ?_, ?_⟩
  · rw [← setsTrap_iff, lines]
    decide
  · rw [lines]
    exact ⟨2, _, ⟨1, _, rfl, rfl, by decide, by decide, by decide⟩, asks⟩
  · rw [ContentRule.check_readsAs rfl (World.readsAs_ofScript content), lines, inspect,
      trapFindings_of_setsTrap (by decide), execFindings, execs, dialectFindings_eq, dialect]
    rfl

end ShellSurvey
