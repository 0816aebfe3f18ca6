import ShellSurvey.Proofs.Classify.Reference
import ShellSurvey.Proofs.Content.LineNumbers
import ShellSurvey.Rule.Property

namespace ShellSurvey

/-- The byte order mark of a text in UTF-8. -/
def utf8Mark : Bytes := [0xEF, 0xBB, 0xBF]

/-- What the mark is read as. -/
def markChar : Char := '\ufeff'

theorem decodeLossy_utf8Mark (content : Bytes) :
    decodeLossy (utf8Mark ++ content) = markChar :: decodeLossy content := by
  have piece : pieceAt 0xEF (0xBB :: 0xBF :: content) = .scalar markChar 2 := by rfl
  rw [utf8Mark, List.cons_append, List.cons_append, List.cons_append, List.nil_append,
    decodeLossy_cons, piece]
  rfl

theorem consFirst_eq {α : Type} (x : α) (pieces : List (List α)) :
    consFirst x pieces = (x :: pieces.headD []) :: pieces.tail := by
  cases pieces <;> rfl

theorem scriptLines_utf8Mark (content : Bytes) : scriptLines (utf8Mark ++ content) =
    (markChar :: (scriptLines content).headD []) :: (scriptLines content).tail := by
  have noReturn : markChar ≠ '\r' := by decide
  have noBreak : ¬ isLineBreak markChar = true := by decide
  rw [scriptLines, decodeLossy_utf8Mark, splitLines_cons noReturn, if_neg noBreak, consFirst_eq]
  rfl

theorem Lexicon.markLength_utf8Mark (content : Bytes) :
    Lexicon.standard.markLength (utf8Mark ++ content) = 3 := by
  simp [markLength, markLengths, utf8Mark, Lexicon.standard, Standard.byteOrderMarks]

theorem FirstLine.marked_ofContent_utf8Mark (content : Bytes) :
    (ofContent .standard (utf8Mark ++ content)).marked = true := by
  rw [ofContent, Lexicon.markLength_take, Lexicon.markLength_utf8Mark]
  rfl

/-- The classifier sees the same first line, and the mark before it. -/
theorem FirstLine.ofContent_utf8Mark {content : Bytes}
    (unmarked : Lexicon.standard.markLength content = 0) :
    ofContent .standard (utf8Mark ++ content) =
      { ofContent .standard content with marked := true } := by
  unfold ofContent
  rw [Lexicon.markLength_take, Lexicon.markLength_take, Lexicon.markLength_utf8Mark, unmarked]
  rfl

/-- A line does not begin with a word that has another first letter. -/
theorem not_prefix_of_head? {line word : Line} {c d : Char} (first : line.head? = some d)
    (starts : word.head? = some c) (other : c ≠ d) : ¬ word <+: line := by
  rintro ⟨tail, rfl⟩
  rw [List.head?_append, starts, Option.some_or] at first
  exact other (Option.some.inj first)

/-- A line with the mark in front. -/
def Marked (line : Line) : Prop := line.head? = some markChar

section

variable {line : Line}

theorem Marked.takeWhile (marked : Marked line) {p : Char → Bool} (kept : p markChar = true) :
    Marked (line.takeWhile p) := by
  obtain ⟨rest, rfl⟩ := List.head?_eq_some_iff.mp marked
  rw [List.takeWhile_cons_of_pos kept]
  rfl

theorem Marked.dropWhile_blank (marked : Marked line) : line.dropWhile isBlank = line := by
  have visible : ¬ isBlank markChar = true := by decide
  obtain ⟨rest, rfl⟩ := List.head?_eq_some_iff.mp marked
  exact List.dropWhile_cons_of_neg visible

/-- The mark is no blank, so that trimming does not take it away. -/
theorem Marked.trim (marked : Marked line) : Marked (trim line) := by
  rw [ShellSurvey.trim, trimStart, marked.dropWhile_blank, trimEnd, dropWhileEnd]
  obtain ⟨rest, rfl⟩ := List.head?_eq_some_iff.mp marked
  rw [List.reverse_cons, List.dropWhile_append]
  split
  · rfl
  · rw [List.reverse_append]
    rfl

theorem Marked.stripComment (marked : Marked line) : Marked (stripComment line) :=
  (marked.takeWhile (by decide)).trim

theorem Marked.ne_nil (marked : Marked line) : line ≠ [] := by
  rintro rfl
  cases marked

theorem Marked.isComment (marked : Marked line) : isComment line = false := by
  rw [ShellSurvey.isComment, marked]
  rfl

theorem Marked.startsWith (marked : Marked line) {word : String} {c : Char}
    (starts : word.toList.head? = some c) (other : c ≠ markChar) :
    startsWith word line = false :=
  Bool.eq_false_iff.mpr fun begins =>
    not_prefix_of_head? marked starts other (List.isPrefixOf_iff_prefix.mp begins)

/-- The first word of a line with the mark in front is none that a rule looks for. -/
theorem Marked.word_ne (marked : Marked line) {p : Char → Bool} (kept : p markChar = true)
    {word : Line} {c : Char} (starts : word.head? = some c) (other : c ≠ markChar) :
    ShellSurvey.trim ((ShellSurvey.stripComment line).takeWhile p) ≠ word := by
  have first : Marked (ShellSurvey.trim ((ShellSurvey.stripComment line).takeWhile p)) :=
    (marked.stripComment.takeWhile kept).trim
  rintro rfl
  exact other (Option.some.inj (starts.symm.trans first))

theorem Marked.isIfsUnset (marked : Marked line) : isIfsUnset line = false := by
  rw [ShellSurvey.isIfsUnset, marked.dropWhile_blank]
  obtain ⟨rest, rfl⟩ := List.head?_eq_some_iff.mp marked
  rfl

theorem Marked.offends_ifs (marked : Marked line) : ContentRule.ifs.Offends line := by
  refine ⟨marked.isIfsUnset, ?_, ?_⟩
  · rw [isBeforeIfs, decide_eq_false marked.trim.ne_nil, marked.isComment,
      marked.startsWith rfl (by decide), marked.startsWith rfl (by decide)]
    rfl
  · exact decide_eq_false (marked.word_ne (by decide) rfl (by decide))

theorem Marked.offends_safety (marked : Marked line) : ContentRule.safety.Offends line :=
  ⟨marked.trim.ne_nil, marked.trim.isComment, marked.trim.startsWith rfl (by decide),
    marked.trim.startsWith rfl (by decide),
    decide_eq_false (marked.trim.word_ne (by decide) rfl (by decide))⟩

end

/-- A statement that is nothing to the rule on traps. -/
def Idle (statement : Line) : Prop :=
  ¬ SetsTrap statement ∧ ¬ ReplacesShell statement ∧ ¬ SetsErrtrace statement

theorem idle_of_head? {statement : Line} {c : Char} (first : statement.head? = some c)
    (other : c ∉ ['t', 'T', 'e', 's']) : Idle statement := by
  simp only [List.mem_cons, List.not_mem_nil, or_false, not_or] at other
  obtain ⟨noTrap, noFunction, noExec, noSet⟩ := other
  refine ⟨?_, ?_, ?_⟩
  · rintro (⟨action, _, same⟩ | ⟨signal, body, _, _, same⟩)
    · exact not_prefix_of_head? first rfl (Ne.symm noTrap) ⟨_, same.symm⟩
    · rw [List.append_assoc, List.append_assoc] at same
      exact not_prefix_of_head? first rfl (Ne.symm noFunction) ⟨_, same.symm⟩
  · rintro ⟨command, _, same⟩
    exact not_prefix_of_head? first rfl (Ne.symm noExec) ⟨_, same.symm⟩
  · rintro ⟨flags, same, _⟩
    exact not_prefix_of_head? first rfl (Ne.symm noSet) ⟨_, same.symm⟩

theorem Marked.idle {statement : Line} (marked : Marked statement) : Idle statement :=
  idle_of_head? marked (by decide)

/-- A blank line in place of the first one takes a statement away and moves none. -/
theorem statements_cons (first : Line) (rest : List Line) : statements (first :: rest) =
    (if trim first = [] || isComment (trim first) then [] else [(1, trim first)]) ++
      statements ([] :: rest) := by
  have blank : (trim [] = [] || isComment (trim [])) = true := by decide
  unfold statements
  simp only [List.map_cons, List.zipIdx_cons, List.filterMap_cons, blank, if_true]
  cases (trim first = [] || isComment (trim first) : Bool) <;> rfl

section

variable {record : Record} {first : Line} {rest : List Line}

/-- A first line that is nothing to the rule may as well be blank. -/
theorem trapFindings_idle (idle : Idle (trim first)) :
    trapFindings record (first :: rest) = trapFindings record ([] :: rest) := by
  obtain ⟨noTrap, noExec, noGuard⟩ := idle
  have list : isListTrap (trim first) = false :=
    Bool.eq_false_iff.mpr fun traps => noTrap (.inl (isListTrap_iff.mp traps))
  have function : isFunctionTrap (trim first) = false :=
    Bool.eq_false_iff.mpr fun traps => noTrap (.inr (isFunctionTrap_iff.mp traps))
  have exec : isExec (trim first) = false :=
    Bool.eq_false_iff.mpr fun replaces => noExec (isExec_iff.mp replaces)
  have guard : setsErrtrace (trim first) = false :=
    Bool.eq_false_iff.mpr fun sets => noGuard (setsErrtrace_iff.mp sets)
  have offends (dialect : TrapDialect) (texts : List Line) :
      dialect.offends (trim first :: texts) = dialect.offends texts := by
    cases dialect <;> simp [TrapDialect.offends, list, guard]
  have traps (texts : List Line) : setsTrap (trim first :: texts) = setsTrap texts := by
    simp [setsTrap, list, function]
  simp only [trapFindings_eq, trapReports, dialectFindings_eq, statements_cons first rest]
  split
  · rfl
  · simp only [List.singleton_append, List.map_cons, List.filter_cons, traps, exec, offends,
      Bool.false_eq_true, if_false]

/-- The rule on traps passes over a line with the mark in front. -/
theorem trapFindings_marked (record : Record) (lines : List Line) :
    trapFindings record ((markChar :: lines.headD []) :: lines.tail) =
      trapFindings record ([] :: lines.tail) := by
  have marked : Marked (markChar :: lines.headD []) := rfl
  exact trapFindings_idle marked.trim.idle

theorem ifsOffence_first {number : Nat} (offends : ContentRule.ifs.Offends first) :
    ifsOffence number (first :: rest) = some number := by
  obtain ⟨noUnset, noLead, noReset⟩ := offends
  simp [ifsOffence, noUnset, noLead, noReset]

theorem safetyOffence_first (offends : ContentRule.safety.Offends first) :
    safetyOffence (first :: rest) = some 1 := by
  obtain ⟨nonblank, noComment, noIfs, noUnset, noSet⟩ := offends
  simp [safetyOffence, firstStatement, firstLineFrom, nonblank, noComment, noIfs, noUnset, noSet]

end

/-- The kind of finding of a rule on the top of a script. -/
def ContentRule.topKind? : ContentRule → Option FindingKind
  | .ifs => some Kinds.ifsNotReset
  | .safety => some Kinds.noSafetyFlags
  | .traps => none

/-- A rule on the top of a script reports its first line if and only if that one is an offence. -/
theorem ContentRule.inspect_first {rule : ContentRule} {kind : FindingKind}
    (top : rule.topKind? = some kind) {record : Record} {lines : List Line} :
    rule.inspect record lines = [kind.atLine record.path 1] ↔ rule.OffendedAt lines 0 := by
  constructor
  · intro reported
    have member : kind.atLine record.path 1 ∈ rule.inspect record lines :=
      reported ▸ List.mem_singleton_self _
    have listed : (1 : Int) ∈ (kind.atLine record.path 1).lines := List.mem_singleton_self _
    obtain ⟨index, number, offended⟩ := offendedAt_of_mem_lines member listed
    obtain rfl : index = 0 := by omega
    exact offended
  · rintro ⟨first, there, offends⟩
    obtain ⟨rest, rfl⟩ := List.head?_eq_some_iff.mp (List.head?_eq_getElem?.trans there)
    cases rule with
    | ifs =>
      cases top
      rw [inspect, ifsOffence_first offends]
      rfl
    | safety =>
      cases top
      rw [inspect, safetyOffence_first offends]
      rfl
    | traps => cases top

theorem ContentRule.applies_top {rule : ContentRule} {kind : FindingKind}
    (top : rule.topKind? = some kind) {record : Record} (posix : record.posix = true) :
    rule.applies record = !record.library := by
  cases rule with
  | ifs | safety => rw [applies, posix, Bool.true_and]
  | traps => cases top

/-- A line with the mark in front is an offence to the rules on the top of a script. -/
theorem Marked.offendedAt {rule : ContentRule} {kind : FindingKind}
    (top : rule.topKind? = some kind) {first : Line} (marked : Marked first) {rest : List Line} :
    rule.OffendedAt (first :: rest) 0 := by
  refine ⟨first, rfl, ?_⟩
  cases rule with
  | ifs => exact marked.offends_ifs
  | safety => exact marked.offends_safety
  | traps => cases top

section

variable {world other : World} {record : Record} {content : Bytes} (posix : record.posix = true)
  (read : world.ReadsAs record.path content)
  (readMarked : other.ReadsAs record.path (utf8Mark ++ content))
include posix readMarked

/-- With a mark in front of it the first line is reported, unless libraries are spared. -/
theorem ContentRule.check_top_marked {rule : ContentRule} {kind : FindingKind}
    (top : rule.topKind? = some kind) :
    rule.check other record = .ok (if record.library then [] else [kind.atLine record.path 1]) := by
  have applies := applies_top top posix
  cases library : record.library with
  | true =>
    rw [library] at applies
    exact check_spared applies
  | false =>
    rw [library] at applies
    have marked : Marked (markChar :: (scriptLines content).headD []) := rfl
    rw [check_readsAs applies readMarked, scriptLines_utf8Mark]
    exact congrArg Except.ok ((inspect_first top).mpr (marked.offendedAt top))

theorem ContentRule.check_traps_marked : ContentRule.traps.check other record =
    .ok (trapFindings record ([] :: (scriptLines content).tail)) := by
  have applies : ContentRule.traps.applies record = true := posix
  rw [check_readsAs applies readMarked, scriptLines_utf8Mark]
  exact congrArg Except.ok (trapFindings_marked record _)

include read

/-- The mark makes no difference if the first line is reported anyway. -/
theorem ContentRule.check_top_alike {rule : ContentRule} {kind : FindingKind}
    (top : rule.topKind? = some kind) : rule.check other record = rule.check world record ↔
      record.library = true ∨ rule.OffendedAt (scriptLines content) 0 := by
  have applies := applies_top top posix
  rw [check_top_marked posix readMarked top]
  cases library : record.library with
  | true =>
    rw [library] at applies
    rw [check_spared applies]
    exact iff_of_true rfl (Or.inl rfl)
  | false =>
    rw [library] at applies
    have reports : rule.inspect record (scriptLines content) = [kind.atLine record.path 1] ↔
        rule.OffendedAt (scriptLines content) 0 := inspect_first top
    rw [check_readsAs applies read, ← reports]
    simp [eq_comm]

theorem ContentRule.check_traps_alike (idle : Idle (trim ((scriptLines content).headD []))) :
    ContentRule.traps.check other record = ContentRule.traps.check world record := by
  have applies : ContentRule.traps.applies record = true := posix
  rw [check_traps_marked posix readMarked, check_readsAs applies read]
  refine congrArg Except.ok ?_
  cases lines : scriptLines content with
  | nil => rfl
  | cons line rest =>
    rw [lines] at idle
    exact (trapFindings_idle idle).symm

end

theorem PropertyRule.check_bom_marked (record : Record) (content : Bytes) :
    PropertyRule.bom.check (record.seeHead .standard (utf8Mark ++ content)) =
      [Kinds.leadingBom.inFile record.path] := by
  rw [check, Record.seeHead, FirstLine.marked_ofContent_utf8Mark]
  rfl

/-- What a mark in front of a script comes to. -/
structure MarkCounts (world other : World) (record : Record) (content : Bytes) : Prop where
  classified : Lexicon.standard.markLength content = 0 →
    FirstLine.ofContent .standard (utf8Mark ++ content) =
      { FirstLine.ofContent .standard content with marked := true }
  reported : PropertyRule.bom.check (record.seeHead .standard (utf8Mark ++ content)) =
    [Kinds.leadingBom.inFile record.path]
  top : ∀ rule kind, ContentRule.topKind? rule = some kind →
    rule.check other record =
      .ok (if record.library then [] else [kind.atLine record.path 1])
  topAlike : ∀ rule kind, ContentRule.topKind? rule = some kind →
    (rule.check other record = rule.check world record ↔
      record.library = true ∨ rule.OffendedAt (scriptLines content) 0)
  traps : ContentRule.traps.check other record =
    .ok (trapFindings record ([] :: (scriptLines content).tail))
  trapsAlike : Idle (trim ((scriptLines content).headD [])) →
    ContentRule.traps.check other record = ContentRule.traps.check world record

/-- The classifier sees the same script with a mark in front of it and without, and the mark is reported
for itself. The rules on content do not: those on the top of a script report its first line, whatever it
says, and the rule on traps takes it for a blank one. -/
theorem mark_counts {world other : World} {record : Record} {content : Bytes}
    (posix : record.posix = true) (read : world.ReadsAs record.path content)
    (readMarked : other.ReadsAs record.path (utf8Mark ++ content)) :
    MarkCounts world other record content where
  classified := FirstLine.ofContent_utf8Mark
  reported := PropertyRule.check_bom_marked record content
  top _ _ known := ContentRule.check_top_marked posix readMarked known
  topAlike _ _ known := ContentRule.check_top_alike posix read readMarked known
  traps := ContentRule.check_traps_marked posix readMarked
  trapsAlike := ContentRule.check_traps_alike posix read readMarked

/-- The traps of a script that starts with a comment are judged alike with and without a mark. -/
theorem mark_counts_comment :
    let record : Record := { path := "deploy", posix := true, interpreter := .ofName "sh" }
    let content := asciiBytes "#!/bin/sh\ntrap - 0\n".toList
    let world (content : Bytes) : World := .ofDisk (.ofScript content)
    ContentRule.ifs.check (world (utf8Mark ++ content)) record =
        .ok [Kinds.ifsNotReset.atLine "deploy" 1] ∧
      ContentRule.traps.check (world (utf8Mark ++ content)) record =
        ContentRule.traps.check (world content) record := by
  intro record content world
  have posix : record.posix = true := rfl
  have lines : scriptLines content = ["#!/bin/sh".toList, "trap - 0".toList] :=
    (scriptLines_asciiBytes (by decide)).trans (by decide)
  have idle : Idle (trim ((scriptLines content).headD [])) := by
    rw [lines]
    exact idle_of_head? (c := '#') (by decide) (by decide)
  have counts := mark_counts posix (World.readsAs_ofScript content)
    (World.readsAs_ofScript (utf8Mark ++ content))
  exact ⟨counts.top .ifs _ rfl, counts.trapsAlike idle⟩

/-- A script that resets the separators and sets flags is in order, but with a mark in front of it both are
reported to be missing. -/
theorem mark_makes_offences :
    let record : Record := { path := "deploy", posix := true, interpreter := .ofName "sh" }
    let content := asciiBytes "#!/bin/sh\nunset IFS\nset -euf\n".toList
    let world (content : Bytes) : World := .ofDisk (.ofScript content)
    Lexicon.standard.markLength content = 0 ∧
      ContentRule.ifs.check (world content) record = .ok [] ∧
      ContentRule.ifs.check (world (utf8Mark ++ content)) record =
        .ok [Kinds.ifsNotReset.atLine "deploy" 1] ∧
      ContentRule.safety.check (world content) record = .ok [] ∧
      ContentRule.safety.check (world (utf8Mark ++ content)) record =
        .ok [Kinds.noSafetyFlags.atLine "deploy" 1] := by
  intro record content world
  have lines : scriptLines content = ["#!/bin/sh".toList, "unset IFS".toList, "set -euf".toList] :=
    (scriptLines_asciiBytes (by decide)).trans (by decide)
  have plain (rule : ContentRule) (applies : rule.applies record = true) :=
    ContentRule.check_readsAs applies (World.readsAs_ofScript content)
  have marked (rule : ContentRule) (applies : rule.applies record = true) :=
    ContentRule.check_readsAs applies (World.readsAs_ofScript (utf8Mark ++ content))
  simp only [lines, scriptLines_utf8Mark] at plain marked
  exact ⟨by decide, plain .ifs rfl, marked .ifs rfl, plain .safety rfl, marked .safety rfl⟩

end ShellSurvey
