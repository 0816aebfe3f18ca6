import ShellSurvey.Proofs.Content.Errtrace
import ShellSurvey.Proofs.Content.Words

namespace ShellSurvey

/-- The commands whose arguments count for a rule. -/
inductive CommandWord where
  | set
  | trap
  | exec
  deriving DecidableEq

def CommandWord.text : CommandWord → Line
  | .set => "set".toList
  | .trap => "trap".toList
  | .exec => "exec".toList

theorem CommandWord.isWord (word : CommandWord) : IsWord word.text := by
  cases word <;> exact isWord_of_all (by decide) (by decide)

theorem CommandWord.text_injective : Function.Injective CommandWord.text := by
  intro word other
  cases word <;> cases other <;> decide

/-- Spaces and tabs between a command and its arguments. -/
structure Gap where
  blanks : Line
  nonempty : blanks ≠ []
  plain : ∀ c ∈ blanks, c = ' ' ∨ c = '\t'

theorem Gap.blank (gap : Gap) : ∀ c ∈ gap.blanks, isBlank c = true := by
  intro c member
  rcases gap.plain c member with rfl | rfl <;> decide

/-- A line with a command and what comes behind it, but for the gap between them. -/
structure GappedLine where
  indent : Line
  word : CommandWord
  tail : Line
  blank : ∀ c ∈ indent, isBlank c = true

namespace GappedLine

def text (line : GappedLine) (gap : Gap) : Line :=
  line.indent ++ (line.word.text ++ (gap.blanks ++ line.tail))

/-- What comes behind the gap, without the blanks at the end. -/
def arguments (line : GappedLine) : Line := trimEnd line.tail

def statement (line : GappedLine) (gap : Gap) : Line :=
  line.word.text ++ trimEnd (gap.blanks ++ line.tail)

/-- A rule takes the line for the command that it is. The rule on safety flags wants a space in the gap, unless
nothing would cling to the gap. The rule on traps wants a space right behind the command, and a cluster of
flags right behind that space. The rule on field separators does not look that far. -/
def SeenBy (line : GappedLine) (gap : Gap) : ContentRule → Prop
  | .ifs => False
  | .safety => line.word = .set ∧ (' ' ∈ gap.blanks ∨ clinging line.arguments = [])
  | .traps => line.arguments ≠ [] ∧ gap.blanks.head? = some ' ' ∧
      (line.word = .set → gap.blanks = [' '] ∧ startsWithErrtraceFlag line.arguments = true ∨
        endsWithErrtraceWord line.arguments = true)

end GappedLine

section

variable {line : GappedLine} {gap : Gap}

theorem GappedLine.trim_text : trim (line.text gap) = line.statement gap :=
  trim_word line.word.isWord line.blank

theorem GappedLine.statement_eq_append (some : line.arguments ≠ []) :
    line.statement gap = line.word.text ++ (gap.blanks ++ line.arguments) := by
  have whole : trimEnd (gap.blanks ++ line.tail) = gap.blanks ++ line.arguments :=
    (dropWhileEnd_append isBlank _ _).trans (if_neg some)
  rw [statement, whole]

theorem GappedLine.statement_eq_text (none : line.arguments = []) :
    line.statement gap = line.word.text := by
  have gone : trimEnd (gap.blanks ++ line.tail) = [] := by
    rw [trimEnd_eq_nil_iff, List.forall_mem_append]
    exact ⟨gap.blank, trimEnd_eq_nil_iff.mp none⟩
  rw [statement, gone, List.append_nil]

theorem GappedLine.trim_ne_nil : trim (line.text gap) ≠ [] := by
  rw [trim_text]
  exact List.append_ne_nil_of_left_ne_nil line.word.isWord.nonempty _

theorem GappedLine.isComment_trim : isComment (trim (line.text gap)) = false := by
  rw [trim_text]
  exact line.word.isWord.isComment_append _

/-- A gap without a space goes to the word, and so does what clings to the gap. -/
theorem clinging_gap {tail : Line} : clinging (trimEnd (gap.blanks ++ tail)) = [] ↔
    ' ' ∈ gap.blanks ∨ clinging (trimEnd tail) = [] := by
  rw [clinging_eq_nil_iff, blank_takeWhile_trimEnd, clinging_eq_nil_iff, blank_takeWhile_trimEnd]
  have noSign : '#' ∉ gap.blanks := not_mem_of_blank gap.blank (by decide)
  have taken {front : Line} (inside : front ⊆ gap.blanks) (noSpace : ' ' ∉ front) :
      ∀ c ∈ front, (c ≠ ' ' && c ≠ '#') = true := by
    intro c member
    have space : c ≠ ' ' := fun same => noSpace (same ▸ member)
    have sign : c ≠ '#' := fun same => noSign (same ▸ inside member)
    simp [space, sign]
  -- A space ends the word within the gap, whatever follows; else all of the gap belongs to it.
  by_cases space : ' ' ∈ gap.blanks
  · refine iff_of_true ?_ (Or.inl space)
    obtain ⟨front, back, parts, noSpace⟩ := List.eq_append_cons_of_mem space
    have inside : front ⊆ gap.blanks := by
      rw [parts]
      exact List.subset_append_left _ _
    rw [parts, List.append_assoc, List.takeWhile_append_of_pos (taken inside noSpace),
      List.cons_append, List.takeWhile_cons_of_neg (by simp), List.append_nil]
    exact fun c member => gap.blank c (inside member)
  · rw [List.takeWhile_append_of_pos (taken (List.Subset.refl _) space), List.forall_mem_append,
      or_iff_right space]
    exact and_iff_right gap.blank

/-- The rule on field separators passes over a `set` command without an indent and reports the others. -/
theorem GappedLine.ifsVerdict_text : ifsVerdict (line.text gap) =
    if line.indent = [] ∧ line.word = .set then .passed else .offence := by
  obtain ⟨c, letters, spelled, unblank, noUnset, noReset⟩ : ∃ c letters,
      line.word.text = c :: letters ∧ isBlank c = false ∧ c ≠ 'u' ∧ c ≠ 'I' := by
    cases line.word <;> exact ⟨_, _, rfl, by decide, by decide, by decide⟩
  by_cases flush : line.indent = []
  · have unset : isIfsUnset (line.word.text ++ (gap.blanks ++ line.tail)) = false := by
      rw [spelled]
      exact Bool.eq_false_iff.mpr fun unset => noUnset (eq_of_isIfsUnset _ unset unblank)
    have start : (∃ skipped ∈ ["set", "unset"], skipped.toList <+:
        line.word.text ++ (gap.blanks ++ line.tail)) ↔ line.word = .set := by
      cases line.word <;> simp [CommandWord.text]
    rw [text, flush, List.nil_append]
    by_cases set : line.word = .set
    · rw [if_pos ⟨rfl, set⟩]
      exact ifsVerdict_skipped line.word.isWord unset (start.mpr set)
    · rw [if_neg fun both => set both.2]
      refine ifsVerdict_command line.word.isWord unset ?_ (mt start.mp set)
      rw [spelled, List.head?_cons, Ne, Option.some.injEq]
      exact noReset
  · rw [text, spelled, if_neg fun both => flush both.1]
    exact ifsVerdict_indented _ line.blank unblank flush noUnset noReset

theorem GappedLine.safetyVerdict_text :
    (line.SeenBy gap .safety → safetyVerdict (line.text gap) = .settled) ∧
      (¬ line.SeenBy gap .safety → safetyVerdict (line.text gap) = .offence) := by
  have kept : ¬ ∃ skipped ∈ ["IFS", "unset"], skipped.toList <+:
      line.word.text ++ trimEnd (gap.blanks ++ line.tail) := by
    cases line.word <;> simp [CommandWord.text]
  have whole : line.word.text ++ clinging (trimEnd (gap.blanks ++ line.tail)) = "set".toList ↔
      line.SeenBy gap .safety := by
    rw [SeenBy, arguments, ← clinging_gap]
    cases line.word <;> simp [CommandWord.text]
  rw [text, safetyVerdict_command line.word.isWord line.blank kept]
  exact ⟨fun seen => if_pos (whole.mpr seen), fun unseen => if_neg (mt whole.mp unseen)⟩

/-- The command is followed by a space if the gap starts with one. -/
theorem GappedLine.statement_eq_iff {word rest : Line} (unblank : Unblank word) :
    line.statement gap = word ++ ' ' :: rest ↔ line.word.text = word ∧ line.arguments ≠ [] ∧
      gap.blanks.head? = some ' ' ∧ rest = gap.blanks.tail ++ line.arguments := by
  by_cases none : line.arguments = []
  · rw [statement_eq_text none]
    refine iff_of_false (fun same => ?_) fun parts => parts.2.1 none
    have space : ' ' ∈ line.word.text := by simp [same]
    exact absurd (line.word.isWord.unblank ' ' space) (by decide)
  obtain ⟨c, blanks, parts⟩ := List.exists_cons_of_ne_nil gap.nonempty
  have blank : isBlank c = true := gap.blank c (by rw [parts]; exact List.mem_cons_self)
  rw [statement_eq_append none, parts]
  constructor
  · intro same
    obtain ⟨rfl, rfl, rfl⟩ :=
      word_append_inj line.word.isWord.unblank unblank blank (by decide) same
    exact ⟨rfl, none, rfl, rfl⟩
  · rintro ⟨rfl, _, first, rfl⟩
    cases first
    rfl

/-- A command other than `set` is seen behind a space, whatever follows. -/
theorem GappedLine.follows_iff {word : CommandWord} {front : Line}
    (spelled : front = word.text ++ [' ']) (other : word ≠ .set) :
    (∃ rest, rest ≠ [] ∧ line.statement gap = front ++ rest) ↔
      line.word = word ∧ line.SeenBy gap .traps := by
  have parted (rest : Line) : front ++ rest = word.text ++ ' ' :: rest := by
    rw [spelled, List.append_assoc, List.singleton_append]
  simp only [parted, statement_eq_iff word.isWord.unblank]
  constructor
  · rintro ⟨_, _, named, some, first, _⟩
    obtain rfl := CommandWord.text_injective named
    exact ⟨rfl, some, first, fun set => absurd set other⟩
  · rintro ⟨rfl, some, first, _⟩
    exact ⟨_, List.append_ne_nil_of_right_ne_nil _ some, rfl, some, first, rfl⟩

theorem GappedLine.isListTrap_statement : isListTrap (line.statement gap) = true ↔
    line.word = .trap ∧ line.SeenBy gap .traps := by
  have spelled : "trap ".toList = CommandWord.trap.text ++ [' '] := rfl
  exact isListTrap_iff.trans (follows_iff spelled (by decide))

theorem GappedLine.isExec_statement : isExec (line.statement gap) = true ↔
    line.word = .exec ∧ line.SeenBy gap .traps := by
  have spelled : "exec ".toList = CommandWord.exec.text ++ [' '] := rfl
  exact isExec_iff.trans (follows_iff spelled (by decide))

theorem GappedLine.isFunctionTrap_statement : isFunctionTrap (line.statement gap) = false := by
  refine Bool.eq_false_iff.mpr fun traps => ?_
  obtain ⟨signal, body, _, _, same⟩ := isFunctionTrap_iff.mp traps
  obtain ⟨c, letters, spelled, other⟩ : ∃ c letters, line.word.text = c :: letters ∧ 'T' ≠ c := by
    cases line.word <;> exact ⟨_, _, rfl, by decide⟩
  have first : (line.statement gap).head? = some c := by rw [statement, spelled]; rfl
  rw [List.append_assoc, List.append_assoc] at same
  exact not_prefix_of_head? first rfl other ⟨_, same.symm⟩

section

variable {blanks : Line} (blank : ∀ c ∈ blanks, isBlank c = true) (flags : Line)
include blank

/-- Further blanks in front of the flags hide the first one. -/
theorem startsWithErrtraceFlag_blanks : startsWithErrtraceFlag (blanks ++ flags) = true ↔
    blanks = [] ∧ startsWithErrtraceFlag flags = true := by
  cases blanks with
  | nil => simp
  | cons c blanks =>
    have here : isBlank c = true := blank c List.mem_cons_self
    rw [startsWithErrtraceFlag_takeWhile, List.cons_append,
      List.takeWhile_cons_of_neg (by simp [here])]
    simp

theorem endsWithErrtraceWord_blanks :
    endsWithErrtraceWord (blanks ++ flags) = true ↔ endsWithErrtraceWord flags = true := by
  have noDash : '-' ∉ blanks := not_mem_of_blank blank (by decide)
  rw [endsWithErrtraceWord_iff, endsWithErrtraceWord_iff]
  constructor
  · rintro ⟨front, letters, run, whole⟩
    rw [List.append_assoc, List.cons_append] at whole
    obtain ⟨more, rfl, parts⟩ | ⟨beyond, rfl, parts⟩ := List.append_eq_append_iff.mp whole
    · exact ⟨more, letters, run, by simpa using parts⟩
    · cases beyond with
      | nil => exact ⟨[], letters, run, parts.symm⟩
      | cons d beyond =>
        obtain ⟨rfl, _⟩ := List.cons.inj parts
        exact absurd (List.mem_append_right front List.mem_cons_self) noDash
  · rintro ⟨front, letters, run, rfl⟩
    exact ⟨blanks ++ front, letters, run, by simp⟩

end

theorem GappedLine.setsErrtrace_statement : setsErrtrace (line.statement gap) = true ↔
    line.word = .set ∧ line.SeenBy gap .traps := by
  rw [setsErrtrace_iff]
  by_cases start : line.word = .set ∧ line.arguments ≠ [] ∧ gap.blanks.head? = some ' '
  · obtain ⟨set, some, space⟩ := start
    obtain ⟨blanks, parts⟩ := List.head?_eq_some_iff.mp space
    have blank : ∀ c ∈ blanks, isBlank c = true := fun c member =>
      gap.blank c (by rw [parts]; exact List.mem_cons_of_mem _ member)
    have flags : line.statement gap = "set ".toList ++ (blanks ++ line.arguments) := by
      rw [statement_eq_append some, set, parts]
      rfl
    rw [flags, SetsErrtrace.of_flags, startsWithErrtraceFlag_blanks blank,
      endsWithErrtraceWord_blanks blank, SeenBy, parts]
    simp [set, some]
  · refine iff_of_false ?_ fun seen => start ⟨seen.1, seen.2.1, seen.2.2.1⟩
    rintro ⟨flags, same, _⟩
    obtain ⟨named, some, space, _⟩ := (statement_eq_iff CommandWord.set.isWord.unblank).mp same
    exact start ⟨CommandWord.text_injective named, some, space⟩

end

end ShellSurvey
