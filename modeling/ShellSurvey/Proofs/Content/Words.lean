import ShellSurvey.Proofs.Content.Verdicts

namespace ShellSurvey

/-- A word that is taken for one: nothing in it is blank or starts a comment. -/
structure IsWord (word : Line) : Prop where
  nonempty : word ≠ []
  unblank : Unblank word
  noComment : '#' ∉ word

theorem isWord_of_all {word : Line} (nonempty : word ≠ [])
    (plain : word.all (fun c => !isBlank c && c != '#') = true) : IsWord word := by
  simp only [List.all_eq_true, Bool.and_eq_true, Bool.not_eq_true', bne_iff_ne] at plain
  exact ⟨nonempty, fun c member => (plain c member).1, fun member => (plain '#' member).2 rfl⟩

theorem IsWord.isComment_append {word : Line} (solid : IsWord word) (tail : Line) :
    isComment (word ++ tail) = false := by
  obtain ⟨c, front, rfl⟩ := List.exists_cons_of_ne_nil solid.nonempty
  have noSign : c ≠ '#' := Ne.symm (List.ne_of_not_mem_cons solid.noComment)
  simp [isComment, noSign]

/-- What stands right behind the first word of a statement and goes to it as well, as no space divides the
two. -/
def clinging (tail : Line) : Line :=
  trimEnd ((trimEnd (tail.takeWhile (· ≠ '#'))).takeWhile (· ≠ ' '))

section

variable {c : Char} {indent : Line} (rest : Line)

theorem eq_of_isIfsUnset (unset : isIfsUnset (c :: rest) = true) (visible : isBlank c = false) :
    c = 'u' := by
  have kept : (c :: rest).dropWhile isBlank = c :: rest :=
    List.dropWhile_cons_of_neg (by simp [visible])
  rw [isIfsUnset, kept] at unset
  cases found : after? "unset" (c :: rest) with
  | none =>
    rw [found] at unset
    cases unset
  | some tail => exact (List.cons.inj (after?_eq_some_iff.mp found)).1

variable (blank : ∀ d ∈ indent, isBlank d = true)
include blank

theorem isIfsUnset_blank : isIfsUnset indent = false := by
  rw [isIfsUnset, List.dropWhile_eq_nil_iff.mpr blank]
  rfl

theorem ifsVerdict_blank : ifsVerdict indent = .passed := by
  have before : isBeforeIfs indent = true := by
    rw [isBeforeIfs, decide_eq_true (trim_blank blank)]
    rfl
  rw [ifsVerdict, isIfsUnset_blank blank, before]
  rfl

theorem safetyVerdict_blank : safetyVerdict indent = .passed := by
  have before : isBeforeSafety (trim indent) = true := by
    rw [isBeforeSafety, decide_eq_true (trim_blank blank)]
    rfl
  rw [safetyVerdict, if_pos before]

theorem safetyVerdict_comment (text : Line) : safetyVerdict (indent ++ '#' :: text) = .passed := by
  rw [safetyVerdict, trim_indented blank (by decide)]
  rfl

variable (visible : isBlank c = false)
include visible

theorem isIfsUnset_indented : isIfsUnset (indent ++ c :: rest) = isIfsUnset (c :: rest) := by
  have kept : (c :: rest).dropWhile isBlank = c :: rest :=
    List.dropWhile_cons_of_neg (by simp [visible])
  rw [isIfsUnset, isIfsUnset, dropWhile_indented blank visible, kept]

/-- A line that assigns the separators starts with the name of the variable. -/
theorem eq_of_isIfsAssignment (assigns : isIfsAssignment (indent ++ c :: rest) = true) :
    c = 'I' := by
  have noSign : '#' ∉ indent := not_mem_of_blank blank (by decide)
  rw [isIfsAssignment, decide_eq_true_eq, stripComment, takeWhile_ne_append noSign] at assigns
  by_cases comment : c = '#'
  · rw [List.takeWhile_cons_of_neg (by simp [comment]), List.append_nil, trim_blank blank]
      at assigns
    cases assigns
  rw [List.takeWhile_cons_of_pos (by simp [comment]), trim_indented blank visible] at assigns
  by_cases equals : c = '='
  · rw [List.takeWhile_cons_of_neg (by simp [equals])] at assigns
    cases assigns
  rw [List.takeWhile_cons_of_pos (by simp [equals]), ← List.nil_append (c :: _),
    trim_indented (List.forall_mem_nil _) visible] at assigns
  exact (List.cons.inj assigns).1

/-- Behind blanks, no line that says something is passed over by the rule on field separators. -/
theorem isBeforeIfs_indented (nonempty : indent ≠ []) :
    isBeforeIfs (indent ++ c :: rest) = false := by
  obtain ⟨d, indent, rfl⟩ := List.exists_cons_of_ne_nil nonempty
  have first : (d :: indent ++ c :: rest).head? = some d := rfl
  have other (sign : Char) (visibleSign : isBlank sign = false) : sign ≠ d := by
    rintro rfl
    exact Bool.false_ne_true (visibleSign.symm.trans (blank sign List.mem_cons_self))
  have starts (word : String) (sign : Char) (begins : word.toList.head? = some sign)
      (visibleSign : isBlank sign = false) :
      startsWith word (d :: indent ++ c :: rest) = false :=
    Bool.eq_false_iff.mpr fun prefixed =>
      not_prefix_of_head? first begins (other sign visibleSign)
        (List.isPrefixOf_iff_prefix.mp prefixed)
  have noComment : isComment (d :: indent ++ c :: rest) = false := by
    rw [isComment, first]
    simpa using (other '#' (by decide)).symm
  rw [isBeforeIfs, trim_indented blank visible, noComment, starts "set" 's' rfl (by decide),
    starts "unset" 'u' rfl (by decide)]
  rfl

/-- An indented line that neither resets nor assigns the separators is reported. -/
theorem ifsVerdict_indented (nonempty : indent ≠ []) (noUnset : c ≠ 'u') (noReset : c ≠ 'I') :
    ifsVerdict (indent ++ c :: rest) = .offence := by
  have unset : isIfsUnset (indent ++ c :: rest) = false := by
    rw [isIfsUnset_indented rest blank visible]
    exact Bool.eq_false_iff.mpr fun unset => noUnset (eq_of_isIfsUnset rest unset visible)
  have assigned : isIfsAssignment (indent ++ c :: rest) = false :=
    Bool.eq_false_iff.mpr fun assigns => noReset (eq_of_isIfsAssignment rest blank visible assigns)
  rw [ifsVerdict, unset, isBeforeIfs_indented rest blank visible nonempty, assigned]
  rfl

end

/-- A comment is passed over if it is not indented. -/
theorem ifsVerdict_comment (text : Line) : ifsVerdict ('#' :: text) = .passed := by
  have unset : isIfsUnset ('#' :: text) = false :=
    Bool.eq_false_iff.mpr fun unset =>
      absurd (eq_of_isIfsUnset text unset (by decide)) (by decide)
  have before : isBeforeIfs ('#' :: text) = true := by
    simp [isBeforeIfs, isComment]
  rw [ifsVerdict, unset, before]
  rfl

/-- The first word of a line ends at the first blank. -/
theorem word_append_inj {word other rest tail : Line} {c d : Char} (unblank : Unblank word)
    (unblankToo : Unblank other) (blank : isBlank c = true) (blankToo : isBlank d = true)
    (same : word ++ c :: rest = other ++ d :: tail) : word = other ∧ c = d ∧ rest = tail := by
  have first {front : Line} (unblank : Unblank front) {e : Char} (blank : isBlank e = true)
      (back : Line) : (front ++ e :: back).takeWhile (fun c => !isBlank c) = front := by
    rw [List.takeWhile_append_of_pos fun c member => by rw [unblank c member]; rfl,
      List.takeWhile_cons_of_neg (by simp [blank]), List.append_nil]
  have words : word = other := by
    rw [← first unblank blank rest, same, first unblankToo blankToo tail]
  subst words
  obtain ⟨signs, tails⟩ := List.cons.inj (List.append_cancel_left same)
  exact ⟨rfl, signs, tails⟩

/-- What may stand behind the end of a word: nothing, or a space and more. -/
def EndsWord (tail : Line) : Prop := ∀ c ∈ tail.head?, c = ' '

section

variable {tail : Line}

theorem endsWord_nil : EndsWord [] := by
  rintro _ ⟨⟩

theorem endsWord_space (rest : Line) : EndsWord (' ' :: rest) := fun _ first =>
  (Option.some.inj first).symm

/-- The front of what ends a word ends it as well. -/
theorem EndsWord.of_front {front : Line} (ends : EndsWord tail) (starts : front <+: tail) :
    EndsWord front := by
  obtain ⟨back, rfl⟩ := starts
  cases front with
  | nil => exact endsWord_nil
  | cons d front => exact ends

theorem EndsWord.trimEnd (ends : EndsWord tail) : EndsWord (trimEnd tail) :=
  ends.of_front (trimEnd_begins tail)

/-- Nothing clings to a word if there is nothing but blanks up to the first space or comment. -/
theorem clinging_eq_nil_iff : clinging tail = [] ↔
    ∀ c ∈ tail.takeWhile (fun c => c ≠ ' ' && c ≠ '#'), isBlank c = true := by
  rw [clinging, trimEnd_eq_nil_iff, blank_takeWhile_trimEnd, List.takeWhile_takeWhile]
  simp only [Bool.decide_and, decide_eq_true_eq]

theorem clinging_eq_nil (ends : EndsWord tail) : clinging tail = [] := by
  rw [clinging_eq_nil_iff]
  cases tail with
  | nil => exact List.forall_mem_nil _
  | cons d tail =>
    obtain rfl : d = ' ' := ends d rfl
    exact List.forall_mem_nil _

/-- A text without spaces that a line starts with is found in its first word. -/
theorem prefix_word_iff {front word : Line} (ends : EndsWord tail) (noSpace : ' ' ∉ front) :
    front <+: word ++ tail ↔ front <+: word := by
  refine ⟨?_, fun starts => starts.trans (List.prefix_append word tail)⟩
  rintro ⟨back, parts⟩
  obtain ⟨more, rfl, _⟩ | ⟨beyond, rfl, rfl⟩ := List.append_eq_append_iff.mp parts
  · exact List.prefix_append front more
  · cases beyond with
    | nil => simp
    | cons d beyond =>
      obtain rfl : d = ' ' := ends d rfl
      exact absurd (List.mem_append_right word List.mem_cons_self) noSpace

variable {word : Line} (solid : IsWord word)
include solid

theorem trim_word {indent : Line} (blank : ∀ d ∈ indent, isBlank d = true) :
    trim (indent ++ (word ++ tail)) = word ++ trimEnd tail := by
  obtain ⟨c, front, rfl⟩ := List.exists_cons_of_ne_nil solid.nonempty
  have visible := solid.unblank c List.mem_cons_self
  rw [← trimEnd_append_visible solid.unblank solid.nonempty, List.cons_append,
    trim_indented blank visible]
  exact (trimEnd_append_cons visible [] _).symm

/-- The first word of a statement reaches to the first space. -/
theorem isSetStatement_append :
    isSetStatement (word ++ tail) = true ↔ word ++ clinging tail = "set".toList := by
  have noSpace : ' ' ∉ word := fun member =>
    absurd (solid.unblank ' ' member) (by decide)
  have trimmed (cs : Line) : trim (word ++ cs) = word ++ trimEnd cs :=
    trim_word solid (List.forall_mem_nil _)
  rw [isSetStatement, decide_eq_true_eq, stripComment, takeWhile_ne_append solid.noComment, trimmed,
    takeWhile_ne_append noSpace, trimmed]
  rfl

/-- A line that starts with a word is neither blank nor a comment. -/
theorem isBeforeIfs_word : isBeforeIfs (word ++ tail) = true ↔
    ∃ skipped ∈ ["set", "unset"], skipped.toList <+: word ++ tail := by
  have visible : trim (word ++ tail) ≠ [] := by
    rw [← List.nil_append (word ++ tail), trim_word solid (List.forall_mem_nil _)]
    exact List.append_ne_nil_of_left_ne_nil solid.nonempty _
  rw [isBeforeIfs, decide_eq_false visible, solid.isComment_append]
  simp [startsWith, List.isPrefixOf_iff_prefix]

theorem ifsVerdict_skipped (noUnset : isIfsUnset (word ++ tail) = false)
    (skipped : ∃ skipped ∈ ["set", "unset"], skipped.toList <+: word ++ tail) :
    ifsVerdict (word ++ tail) = .passed := by
  rw [ifsVerdict, noUnset, isBeforeIfs_word solid |>.mpr skipped]
  rfl

theorem ifsVerdict_command (noUnset : isIfsUnset (word ++ tail) = false)
    (noReset : word.head? ≠ some 'I')
    (kept : ¬ ∃ skipped ∈ ["set", "unset"], skipped.toList <+: word ++ tail) :
    ifsVerdict (word ++ tail) = .offence := by
  have notBefore : isBeforeIfs (word ++ tail) = false :=
    Bool.eq_false_iff.mpr (mt (isBeforeIfs_word solid).mp kept)
  have noAssignment : isIfsAssignment (word ++ tail) = false := by
    obtain ⟨c, front, rfl⟩ := List.exists_cons_of_ne_nil solid.nonempty
    refine Bool.eq_false_iff.mpr fun assigns => noReset ?_
    have visible := solid.unblank c List.mem_cons_self
    exact congrArg some (eq_of_isIfsAssignment _ (List.forall_mem_nil _) visible assigns)
  rw [ifsVerdict, noUnset, notBefore, noAssignment]
  rfl

theorem isBeforeSafety_word : isBeforeSafety (word ++ tail) = true ↔
    ∃ skipped ∈ ["IFS", "unset"], skipped.toList <+: word ++ tail := by
  have visible : word ++ tail ≠ [] := List.append_ne_nil_of_left_ne_nil solid.nonempty _
  rw [isBeforeSafety, decide_eq_false visible, solid.isComment_append]
  simp [startsWith, List.isPrefixOf_iff_prefix]

variable {indent : Line} (blank : ∀ d ∈ indent, isBlank d = true)
include blank

theorem safetyVerdict_skipped
    (skipped : ∃ skipped ∈ ["IFS", "unset"], skipped.toList <+: word ++ trimEnd tail) :
    safetyVerdict (indent ++ (word ++ tail)) = .passed := by
  rw [safetyVerdict, trim_word solid blank, if_pos (isBeforeSafety_word solid |>.mpr skipped)]

/-- Any other statement has to be a `set` command. -/
theorem safetyVerdict_command
    (kept : ¬ ∃ skipped ∈ ["IFS", "unset"], skipped.toList <+: word ++ trimEnd tail) :
    safetyVerdict (indent ++ (word ++ tail)) =
      if word ++ clinging (trimEnd tail) = "set".toList then .settled else .offence := by
  rw [safetyVerdict, trim_word solid blank, if_neg (mt (isBeforeSafety_word solid).mp kept)]
  simp only [isSetStatement_append solid]

end

end ShellSurvey
