import ShellSurvey.Proofs.Content.Words

namespace ShellSurvey

/-- What a line at the top of a script is there for. -/
inductive TopStatement where
  | nothing
  | comment (text : Line)
  | unsetIfs
  | setFlags (flags : Line)

def TopStatement.text : TopStatement → Line
  | .nothing => []
  | .comment text => '#' :: text
  | .unsetIfs => "unset IFS".toList
  | .setFlags flags => "set -".toList ++ flags

/-- A line at the top of a script, indented by some blanks. -/
structure TopLine where
  indent : Line
  statement : TopStatement
  blank : ∀ c ∈ indent, isBlank c = true

def TopLine.text (line : TopLine) : Line := line.indent ++ line.statement.text

def TopLine.Resets (line : TopLine) : Prop := line.statement = .unsetIfs

def TopLine.SetsFlags (line : TopLine) : Prop := ∃ flags, line.statement = .setFlags flags

/-- An indented comment or `set` command. -/
def TopLine.StandsOut (line : TopLine) : Prop :=
  line.indent ≠ [] ∧ ((∃ text, line.statement = .comment text) ∨ line.SetsFlags)

/-- Some line resets the separators, and no line before it stands out. -/
def ResetsInTime (top : List TopLine) : Prop :=
  ∃ front line back, top = front ++ line :: back ∧ line.Resets ∧
    ∀ earlier ∈ front, ¬ earlier.StandsOut

/-- Of the lines that reset the separators or stand out, the first one stands out. -/
def StandsOutAt (top : List TopLine) (index : Nat) : Prop :=
  ∃ front line back, top = front ++ line :: back ∧ front.length = index ∧ line.StandsOut ∧
    ∀ earlier ∈ front, ¬ earlier.StandsOut ∧ ¬ earlier.Resets

theorem isWord_set : IsWord "set".toList := isWord_of_all (by decide) (by decide)

theorem isWord_unset : IsWord "unset".toList := isWord_of_all (by decide) (by decide)

section

variable {line : TopLine}

theorem TopLine.safetyVerdict_of_setsFlags (sets : line.SetsFlags) :
    safetyVerdict line.text = .settled := by
  obtain ⟨flags, statement⟩ := sets
  have space : trimEnd (" -".toList ++ flags) = ' ' :: '-' :: trimEnd flags :=
    trimEnd_append_cons (by decide) [' '] flags
  have kept : ¬ ∃ skipped ∈ ["IFS", "unset"],
      skipped.toList <+: "set".toList ++ trimEnd (" -".toList ++ flags) := by
    simp
  have judged := safetyVerdict_command isWord_set line.blank kept
  rw [space, clinging_eq_nil (endsWord_space _), List.append_nil, if_pos rfl] at judged
  rw [text, statement]
  exact judged

/-- Everything but a `set` command is passed over by the rule on safety flags. -/
theorem TopLine.safetyVerdict_of_not (noSet : ¬ line.SetsFlags) :
    safetyVerdict line.text = .passed := by
  obtain ⟨indent, statement, blank⟩ := line
  cases statement with
  | nothing =>
    have all : ∀ c ∈ indent ++ [], isBlank c = true := by simpa using blank
    exact safetyVerdict_blank all
  | comment text => exact safetyVerdict_comment blank text
  | unsetIfs =>
    exact safetyVerdict_skipped isWord_unset blank
      ⟨"unset", by simp, List.prefix_append _ (trimEnd " IFS".toList)⟩
  | setFlags flags => exact absurd ⟨flags, rfl⟩ noSet

theorem TopLine.ifsVerdict_of_resets (resets : line.Resets) :
    ifsVerdict line.text = .settled := by
  have unset : isIfsUnset (line.indent ++ "unset IFS".toList) = true :=
    (isIfsUnset_indented "nset IFS".toList line.blank (by decide)).trans (by decide)
  rw [text, resets]
  exact if_pos unset

theorem TopLine.ifsVerdict_of_standsOut (standsOut : line.StandsOut) :
    ifsVerdict line.text = .offence := by
  obtain ⟨indented, ⟨text, statement⟩ | ⟨flags, statement⟩⟩ := standsOut
  · rw [TopLine.text, statement]
    exact ifsVerdict_indented text line.blank (by decide) indented (by decide) (by decide)
  · rw [text, statement]
    exact ifsVerdict_indented ("et -".toList ++ flags) line.blank (by decide) indented (by decide)
      (by decide)

/-- A line without an indent is passed over by the rule on field separators, if it is no reset. -/
theorem TopLine.ifsVerdict_of_not (noReset : ¬ line.Resets) (noOutlier : ¬ line.StandsOut) :
    ifsVerdict line.text = .passed := by
  obtain ⟨indent, statement, blank⟩ := line
  cases statement with
  | nothing =>
    have all : ∀ c ∈ indent ++ [], isBlank c = true := by simpa using blank
    exact ifsVerdict_blank all
  | comment text =>
    obtain rfl : indent = [] := by
      by_contra indented
      exact noOutlier ⟨indented, Or.inl ⟨text, rfl⟩⟩
    exact ifsVerdict_comment text
  | unsetIfs => exact absurd rfl noReset
  | setFlags flags =>
    obtain rfl : indent = [] := by
      by_contra indented
      exact noOutlier ⟨indented, Or.inr ⟨flags, rfl⟩⟩
    have noUnset : isIfsUnset ("set".toList ++ (" -".toList ++ flags)) = false :=
      Bool.eq_false_iff.mpr fun unset =>
        absurd (eq_of_isIfsUnset ("et -".toList ++ flags) unset (by decide)) (by decide)
    have passed : ifsVerdict ("set".toList ++ (" -".toList ++ flags)) = .passed :=
      ifsVerdict_skipped isWord_set noUnset
        ⟨"set", by simp, List.prefix_append _ (" -".toList ++ flags)⟩
    exact passed

end

theorem exists_first {α : Type} {p : α → Prop} {xs : List α} (some : ∃ x ∈ xs, p x) :
    ∃ front x back, xs = front ++ x :: back ∧ p x ∧ ∀ earlier ∈ front, ¬ p earlier := by
  classical
  have present : (xs.find? fun x => decide (p x)).isSome = true := by
    rw [List.find?_isSome]
    simpa using some
  obtain ⟨x, found⟩ := Option.isSome_iff_exists.mp present
  obtain ⟨holds, front, back, parts, none⟩ := List.find?_eq_some_iff_append.mp found
  refine ⟨front, x, back, parts, of_decide_eq_true holds, fun earlier member => ?_⟩
  simpa using none earlier member

/-- A shebang, lines at the top of a script, and whatever comes then. -/
def scriptWithTop (command : Line) (top : List TopLine) (rest : List Line) : List Line :=
  ('#' :: '!' :: command) :: (top.map TopLine.text ++ rest)

section

variable {command : Line} {top : List TopLine} {rest : List Line}

theorem scriptWithTop_append (front : List TopLine) (line : TopLine) (back : List TopLine) :
    scriptWithTop command (front ++ line :: back) rest =
      (('#' :: '!' :: command) :: front.map TopLine.text) ++
        line.text :: (back.map TopLine.text ++ rest) := by
  simp [scriptWithTop]

theorem safety_scriptWithTop (set : ∃ line ∈ top, line.SetsFlags) :
    firstOffence safetyVerdict 1 (scriptWithTop command top rest) = none := by
  obtain ⟨front, line, back, rfl, sets, before⟩ := exists_first set
  have shebang : safetyVerdict ('#' :: '!' :: command) = .passed :=
    safetyVerdict_comment (List.forall_mem_nil _) _
  have passed : ∀ text ∈ ('#' :: '!' :: command) :: front.map TopLine.text,
      safetyVerdict text = .passed :=
    List.forall_mem_cons.mpr ⟨shebang, List.forall_mem_map.mpr fun earlier member =>
      TopLine.safetyVerdict_of_not (before earlier member)⟩
  rw [scriptWithTop_append, firstOffence_append passed,
    firstOffence_stop (by simp [TopLine.safetyVerdict_of_setsFlags sets]),
    TopLine.safetyVerdict_of_setsFlags sets]
  rfl

theorem ifs_resetsInTime (inTime : ResetsInTime top) :
    firstOffence ifsVerdict 1 (scriptWithTop command top rest) = none := by
  obtain ⟨front, line, back, rfl, resets, before⟩ := inTime
  rw [scriptWithTop_append]
  refine firstOffence_settled (List.forall_mem_cons.mpr ⟨?_, List.forall_mem_map.mpr ?_⟩)
    (TopLine.ifsVerdict_of_resets resets)
  · rw [ifsVerdict_comment]
    decide
  · intro earlier member
    by_cases resetsToo : earlier.Resets
    · rw [TopLine.ifsVerdict_of_resets resetsToo]
      decide
    · rw [TopLine.ifsVerdict_of_not resetsToo (before earlier member)]
      decide

theorem ifs_standsOutAt {index : Nat} (first : StandsOutAt top index) :
    firstOffence ifsVerdict 1 (scriptWithTop command top rest) = some (index + 2) := by
  obtain ⟨front, line, back, rfl, rfl, standsOut, before⟩ := first
  have passed : ∀ text ∈ ('#' :: '!' :: command) :: front.map TopLine.text,
      ifsVerdict text = .passed :=
    List.forall_mem_cons.mpr ⟨ifsVerdict_comment _, List.forall_mem_map.mpr fun earlier member =>
      TopLine.ifsVerdict_of_not (before earlier member).2 (before earlier member).1⟩
  have reported := TopLine.ifsVerdict_of_standsOut standsOut
  rw [scriptWithTop_append, firstOffence_append passed, firstOffence_stop (by simp [reported]),
    if_pos reported, List.length_cons, List.length_map, Nat.add_comm 1]

/-- A reset among the lines of the top comes in time or not. -/
theorem resetsInTime_or_standsOutAt (reset : ∃ line ∈ top, line.Resets) :
    ResetsInTime top ∨ ∃ index, StandsOutAt top index := by
  have ending : ∃ line ∈ top, line.StandsOut ∨ line.Resets := by
    obtain ⟨line, member, resets⟩ := reset
    exact ⟨line, member, Or.inr resets⟩
  obtain ⟨front, line, back, parts, standsOut | resets, before⟩ := exists_first ending
  · exact Or.inr ⟨front.length, front, line, back, parts, rfl, standsOut,
      fun earlier member => not_or.mp (before earlier member)⟩
  · exact Or.inl ⟨front, line, back, parts, resets,
      fun earlier member => (not_or.mp (before earlier member)).1⟩

end

/-- Of a script that sets flags and resets the separators at its top, the rule on safety flags reports
nothing. Nor does the rule on field separators, if and only if no comment or `set` command before the reset
is indented; else it reports the first one that is. -/
theorem top_judged {world : World} {record : Record} {content : Bytes} {command : Line}
    {top : List TopLine} {rest : List Line} (posix : record.posix = true)
    (noLibrary : record.library = false) (read : world.ReadsAs record.path content)
    (lines : scriptLines content = scriptWithTop command top rest)
    (reset : ∃ line ∈ top, line.Resets) (set : ∃ line ∈ top, line.SetsFlags) :
    ContentRule.safety.check world record = .ok [] ∧
      (ContentRule.ifs.check world record = .ok [] ↔ ResetsInTime top) ∧
      ∀ index, ContentRule.ifs.check world record =
          .ok [Kinds.ifsNotReset.atLine record.path (index + 2)] ↔ StandsOutAt top index := by
  refine ⟨?_, ?_, fun index => ?_⟩
  · rw [ContentRule.check_silent_iff rfl posix noLibrary read, lines]
    exact safety_scriptWithTop set
  · rw [ContentRule.check_silent_iff rfl posix noLibrary read, lines]
    refine ⟨fun silent => (resetsInTime_or_standsOutAt reset).resolve_right ?_, ifs_resetsInTime⟩
    rintro ⟨index, first⟩
    cases silent.symm.trans (ifs_standsOutAt first)
  · rw [ContentRule.check_reports_iff rfl posix noLibrary read, lines]
    refine ⟨fun reported => ?_, ifs_standsOutAt⟩
    rcases resetsInTime_or_standsOutAt reset with inTime | ⟨other, first⟩
    · cases reported.symm.trans (ifs_resetsInTime inTime)
    · have same := Option.some.inj (reported.symm.trans (ifs_standsOutAt first))
      obtain rfl : index = other := by omega
      exact first

/-- A reset behind a comment, and an indented `set` command behind the reset. -/
theorem top_judged_flush :
    let record : Record := { path := "deploy", posix := true, interpreter := .ofName "sh" }
    let content := asciiBytes "#!/bin/sh\n# Strict mode.\nunset IFS\n  set -euf\necho hi\n".toList
    record.library = false ∧
      ContentRule.safety.check (.ofDisk (.ofScript content)) record = .ok [] ∧
      ContentRule.ifs.check (.ofDisk (.ofScript content)) record = .ok [] := by
  intro record content
  let comment : TopLine := ⟨[], .comment " Strict mode.".toList, List.forall_mem_nil _⟩
  let reset : TopLine := ⟨[], .unsetIfs, List.forall_mem_nil _⟩
  let flags : TopLine := ⟨[' ', ' '], .setFlags "euf".toList, by simp [isBlank]⟩
  have lines : scriptLines content =
      scriptWithTop "/bin/sh".toList [comment, reset, flags] ["echo hi".toList] :=
    (scriptLines_asciiBytes (by decide)).trans (by decide)
  have posix : record.posix = true := rfl
  have noLibrary : record.library = false := rfl
  have inTime : ResetsInTime [comment, reset, flags] := by
    refine ⟨[comment], reset, [flags], rfl, rfl, fun earlier member standsOut => ?_⟩
    obtain rfl := List.mem_singleton.mp member
    exact standsOut.1 rfl
  obtain ⟨safety, ifs, _⟩ := top_judged posix noLibrary (World.readsAs_ofScript content) lines
    ⟨reset, by simp, rfl⟩ ⟨flags, by simp, "euf".toList, rfl⟩
  exact ⟨noLibrary, safety, ifs.mpr inTime⟩

/-- The same comment with an indent is reported as what comes in place of a reset. -/
theorem indented_comment_reported :
    let record : Record := { path := "deploy", posix := true, interpreter := .ofName "sh" }
    let content := asciiBytes "#!/bin/sh\n  # Strict mode.\nunset IFS\nset -euf\n".toList
    ∃ top, scriptLines content = scriptWithTop "/bin/sh".toList top [] ∧
      (∃ line ∈ top, line.Resets) ∧ (∃ line ∈ top, line.SetsFlags) ∧
      ContentRule.ifs.check (.ofDisk (.ofScript content)) record =
        .ok [Kinds.ifsNotReset.atLine record.path 2] := by
  intro record content
  let comment : TopLine := ⟨[' ', ' '], .comment " Strict mode.".toList, by simp [isBlank]⟩
  let reset : TopLine := ⟨[], .unsetIfs, List.forall_mem_nil _⟩
  let flags : TopLine := ⟨[], .setFlags "euf".toList, List.forall_mem_nil _⟩
  have lines : scriptLines content = scriptWithTop "/bin/sh".toList [comment, reset, flags] [] :=
    (scriptLines_asciiBytes (by decide)).trans (by decide)
  have first : StandsOutAt [comment, reset, flags] 0 :=
    ⟨[], comment, [reset, flags], rfl, rfl, ⟨List.cons_ne_nil _ _, Or.inl ⟨_, rfl⟩⟩,
      List.forall_mem_nil _⟩
  refine ⟨[comment, reset, flags], lines, ⟨reset, by simp, rfl⟩,
    ⟨flags, by simp, "euf".toList, rfl⟩, ?_⟩
  have posix : record.posix = true := rfl
  have noLibrary : record.library = false := rfl
  have asked : ContentRule.ifs.topKind? = some Kinds.ifsNotReset := rfl
  rw [ContentRule.check_reports_iff asked posix noLibrary (World.readsAs_ofScript content), lines]
  exact ifs_standsOutAt first

end ShellSurvey
