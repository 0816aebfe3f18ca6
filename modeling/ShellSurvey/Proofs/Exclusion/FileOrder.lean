import ShellSurvey.Proofs.Disk.NormalForm
import ShellSurvey.Proofs.Exclusion.Sum

namespace ShellSurvey

/-- The lines of a file of patterns as they stand there. -/
def fileLines (text : List Char) : List String := (splitEditorLines text).map String.ofList

/-- A line without the blanks around it. -/
def trimmedLine (line : String) : String := .ofList (trim line.toList)

theorem trimEnd_idem (line : List Char) : trimEnd (trimEnd line) = trimEnd line :=
  List.rdropWhile_idempotent isBlank line

/-- What a line is as a pattern does not depend on the blanks at its end. -/
theorem trimPatternEnd_trimEnd (line : List Char) : trimPatternEnd (trimEnd line) = trimEnd line := by
  unfold trimPatternEnd
  split
  · rfl
  · exact trimEnd_idem line

theorem trimPatternEnd_trimmedLine (line : String) :
    trimPatternEnd (trimmedLine line).toList = (trimmedLine line).toList := by
  rw [trimmedLine, String.toList_ofList, trim, trimPatternEnd_trimEnd]

/-- Lines that are the same pattern have the same rule. -/
theorem Rule.toOption_ofLine?_congr {line other : String}
    (same : trimPatternEnd line.toList = trimPatternEnd other.toList) :
    (Rule.ofLine? line).toOption = (Rule.ofLine? other).toOption := by
  unfold ofLine?
  rw [same]
  dsimp only
  repeat' split
  all_goals rfl

section

variable [PatternLibrary]

/-- Trimming a line at both ends leaves what it is as a pattern. -/
def TrimsFaithfully (line : String) : Prop :=
  (PatternLibrary.pattern? (trimmedLine line)).toOption = (PatternLibrary.pattern? line).toOption

theorem TrimsFaithfully.readable_iff {line : String} (faithful : TrimsFaithfully line) :
    Readable (trimmedLine line) ↔ Readable line := by
  rw [ShellSurvey.readable_iff, ShellSurvey.readable_iff, faithful]

theorem TrimsFaithfully.linePattern? {line : String} (faithful : TrimsFaithfully line) :
    linePattern? (trimmedLine line) = ShellSurvey.linePattern? line := congrArg Option.join faithful

end

/-- The blanks at the end of a line, an escaped one aside, do not belong to a pattern. -/
theorem trimsFaithfully_of_trim {line : String}
    (same : trim line.toList = trimPatternEnd line.toList) : TrimsFaithfully line := by
  have trimmed : trimPatternEnd (trimmedLine line).toList = trimPatternEnd line.toList := by
    rw [trimPatternEnd_trimmedLine, trimmedLine, String.toList_ofList, same]
  have read := Rule.toOption_ofLine?_congr trimmed
  unfold TrimsFaithfully
  rw [PatternLibrary.pattern?, wildmatch]
  dsimp only
  cases one : Rule.ofLine? (trimmedLine line) <;> cases other : Rule.ofLine? line <;>
    rw [one, other] at read
  · rfl
  · cases read
  · cases read
  · cases read
    rfl

/-- A trimmed line is more than a blank line or a comment. -/
def Tells (line : String) : Prop := line ≠ "" ∧ line.toList.head? ≠ some '#'

instance (line : String) : Decidable (Tells line) := inferInstanceAs (Decidable (_ ∧ _))

theorem ignoreLines_eq (text : List Char) :
    ignoreLines text = ((fileLines text).map trimmedLine).filter Tells := by
  have tells (line : List Char) :
      decide (Tells (.ofList line)) = decide (line ≠ [] ∧ line.head? ≠ some '#') := by
    have empty : String.ofList line = "" ↔ line = [] := by
      rw [← String.ofList_nil, String.ofList_inj]
    simp only [Tells, Ne, empty, String.toList_ofList]
  have trimmed : trimmedLine ∘ String.ofList = String.ofList ∘ trim := by
    funext line
    simp [trimmedLine]
  rw [ignoreLines, fileLines, List.map_map, trimmed, ← List.map_map]
  simp only [List.filter_map, Function.comp_def, tells]

/-- Some pattern skips a text and none keeps it, wherever in the list they stand. -/
def SkippedUnkept (patterns : List Pattern) (text : String) : Prop :=
  (∃ pattern ∈ patterns, pattern.keeps = false ∧ pattern.holds text = true) ∧
    ¬ ∃ pattern ∈ patterns, pattern.keeps = true ∧ pattern.holds text = true

/-- A text that a pattern keeps at first and a later one skips in the end. -/
def Undone (patterns : List Pattern) (text : String) : Prop :=
  skippedBy patterns text = true ∧
    ∃ pattern ∈ patterns, pattern.keeps = true ∧ pattern.holds text = true

/-- The pattern that decides is the last that matches, if there is one. -/
theorem skippedBy_eq_true_iff {patterns : List Pattern} {text : String} :
    skippedBy patterns text = true ↔ ∃ before pattern after,
      patterns = before ++ pattern :: after ∧ pattern.holds text = true ∧ pattern.keeps = false ∧
      ∀ later ∈ after, later.holds text = false := by
  unfold skippedBy
  constructor
  · intro skipped
    cases found : patterns.reverse.find? (·.holds text) with
    | none =>
      rw [found] at skipped
      cases skipped
    | some pattern =>
      rw [found] at skipped
      obtain ⟨hit, after, before, split, unmet⟩ := List.find?_eq_some_iff_append.mp found
      refine ⟨before.reverse, pattern, after.reverse, ?_, hit, by simpa using skipped, ?_⟩
      · rw [← List.reverse_reverse patterns, split]
        simp
      · intro later member
        simpa using unmet later (List.mem_reverse.mp member)
  · rintro ⟨before, pattern, after, rfl, hit, skips, unmet⟩
    have found : (before ++ pattern :: after).reverse.find? (·.holds text) = some pattern := by
      refine List.find?_eq_some_iff_append.mpr ⟨hit, after.reverse, before.reverse, by simp, ?_⟩
      intro later member
      simpa using unmet later (List.mem_reverse.mp member)
    rw [found]
    simpa using skips

theorem skippedUnkept_iff {patterns : List Pattern} {text : String} :
    SkippedUnkept patterns text ↔ skippedBy patterns text = true ∧ ¬ Undone patterns text := by
  constructor
  · rintro ⟨⟨pattern, member, skips, hit⟩, unkept⟩
    refine ⟨?_, fun undone => unkept undone.2⟩
    rcases find?_reverse_cases patterns text with ⟨last, listed, decides, _⟩ | ⟨_, unmet⟩
    · have matched := List.find?_some decides
      have skipping : last.keeps = false := by
        by_contra keeps
        exact unkept ⟨last, listed, by simpa using keeps, matched⟩
      rw [skippedBy, decides]
      exact congrArg not skipping
    · exact absurd ⟨pattern, member, hit⟩ unmet
  · rintro ⟨skipped, notUndone⟩
    obtain ⟨before, pattern, after, rfl, hit, skips, _⟩ := skippedBy_eq_true_iff.mp skipped
    exact ⟨⟨pattern, by simp, skips, hit⟩, fun kept => notUndone ⟨skipped, kept⟩⟩

/-- Where no pattern that skips stands behind one that keeps, nothing is undone. -/
theorem not_undone {patterns : List Pattern}
    (sorted : patterns.Pairwise fun earlier later => earlier.keeps = true → later.keeps = true)
    (text : String) : ¬ Undone patterns text := by
  rintro ⟨skipped, keeper, member, keeps, hit⟩
  obtain ⟨before, pattern, after, rfl, _, skips, unmet⟩ := skippedBy_eq_true_iff.mp skipped
  rw [List.mem_append, List.mem_cons] at member
  rcases member with earlier | rfl | later
  · have kept := (List.pairwise_append.mp sorted).2.2 keeper earlier pattern List.mem_cons_self keeps
    cases kept.symm.trans skips
  · cases keeps.symm.trans skips
  · cases hit.symm.trans (unmet keeper later)

theorem bang_of_negated? {line rest : String} (marked : negated? line = some rest) :
    "!" ++ rest = line := by
  unfold negated? at marked
  split at marked
  · next signs text =>
    cases marked
    rw [← String.ofList_toList (s := line), text]
    simp
  · cases marked

section

variable [PatternLibrary] (laws : PatternLibrary.Laws)
include laws

/-- Blank lines and comments have no pattern. -/
theorem linePattern?_of_not_tells {line : String} (silent : ¬ Tells line) :
    linePattern? line = none := by
  refine laws.commentVoid line ?_
  by_cases empty : line = ""
  · exact Or.inl empty
  · exact Or.inr (Decidable.not_not.mp fun plain => silent ⟨empty, plain⟩)

/-- The lines that are looked at have the patterns of all lines, in their order. -/
theorem filterMap_ignoreLines {text : List Char}
    (faithful : ∀ line ∈ fileLines text, TrimsFaithfully line) :
    (ignoreLines text).filterMap linePattern? = (fileLines text).filterMap linePattern? := by
  rw [ignoreLines_eq, List.filterMap_filter, List.filterMap_map]
  refine List.filterMap_congr fun line member => ?_
  dsimp only [Function.comp_apply]
  split
  · exact (faithful line member).linePattern?
  · next silent =>
    rw [← (faithful line member).linePattern?,
      linePattern?_of_not_tells laws (by simpa using silent)]

omit laws in
theorem readable_ignoreLines {text : List Char}
    (faithful : ∀ line ∈ fileLines text, TrimsFaithfully line)
    (readable : ∀ line ∈ fileLines text, Readable line) :
    ∀ line ∈ ignoreLines text, Readable line := by
  intro line member
  rw [ignoreLines_eq] at member
  obtain ⟨original, listed, rfl⟩ := List.mem_map.mp (List.mem_filter.mp member).1
  exact (faithful original listed).readable_iff.mpr (readable original listed)

/-- The lines without a mark have the patterns that skip. -/
theorem exists_unmarked_iff (lines : List String) (text : String) :
    (∃ line ∈ lines.filter fun line => (negated? line).isNone, LineMatches line text) ↔
      ∃ pattern ∈ lines.filterMap linePattern?, pattern.keeps = false ∧ pattern.holds text = true := by
  constructor
  · rintro ⟨line, member, pattern, found, hit⟩
    obtain ⟨listed, plain⟩ := List.mem_filter.mp member
    refine ⟨pattern, List.mem_filterMap.mpr ⟨line, listed, found⟩, ?_, hit⟩
    rw [laws.keepsByMark line pattern found, Option.isNone_iff_eq_none.mp plain, Option.isSome_none]
  · rintro ⟨pattern, member, skips, hit⟩
    obtain ⟨line, listed, found⟩ := List.mem_filterMap.mp member
    rw [laws.keepsByMark line pattern found, Option.isSome_eq_false_iff] at skips
    exact ⟨line, List.mem_filter.mpr ⟨listed, skips⟩, pattern, found, hit⟩

/-- The lines with a mark have the patterns that keep. -/
theorem exists_marked_iff (lines : List String) (text : String) :
    (∃ line ∈ lines.filterMap negated?, LineMatches ("!" ++ line) text) ↔
      ∃ pattern ∈ lines.filterMap linePattern?, pattern.keeps = true ∧ pattern.holds text = true := by
  constructor
  · rintro ⟨rest, member, pattern, found, hit⟩
    obtain ⟨line, listed, marked⟩ := List.mem_filterMap.mp member
    rw [bang_of_negated? marked] at found
    refine ⟨pattern, List.mem_filterMap.mpr ⟨line, listed, found⟩, ?_, hit⟩
    rw [laws.keepsByMark line pattern found, marked, Option.isSome_some]
  · rintro ⟨pattern, member, keeps, hit⟩
    obtain ⟨line, listed, found⟩ := List.mem_filterMap.mp member
    rw [laws.keepsByMark line pattern found, Option.isSome_iff_exists] at keeps
    obtain ⟨rest, marked⟩ := keeps
    refine ⟨rest, List.mem_filterMap.mpr ⟨line, listed, marked⟩, pattern, ?_, hit⟩
    rw [bang_of_negated? marked, found]

theorem excluded_iff_skippedUnkept (lines : List String) (text : String) :
    Excluded (lines.filter fun line => (negated? line).isNone) (lines.filterMap negated?) text ↔
      SkippedUnkept (lines.filterMap linePattern?) text := by
  rw [Excluded, SkippedUnkept, exists_unmarked_iff laws, exists_marked_iff laws]

/-- Readable lines make an exclusion that skips what some of them skips and none of them keeps. -/
theorem Exclusion.ofText_decides {text : List Char}
    (readable : ∀ line ∈ ignoreLines text, Readable line) :
    ∃ exclusion, Exclusion.ofText text = .ok exclusion ∧ ∀ path isDirectory,
      (exclusion.skips path isDirectory = true ↔
        SkippedUnkept ((ignoreLines text).filterMap linePattern?) (entryText path isDirectory)) := by
  have plainReadable : ∀ line ∈ (ignoreLines text).filter fun line => (negated? line).isNone,
      Readable line := fun line member => readable line (List.mem_filter.mp member).1
  have markedReadable : ∀ line ∈ (ignoreLines text).filterMap negated?, Readable ("!" ++ line) := by
    intro rest member
    obtain ⟨line, listed, marked⟩ := List.mem_filterMap.mp member
    rw [bang_of_negated? marked]
    exact readable line listed
  have plain : ∀ line ∈ (ignoreLines text).filter fun line => (negated? line).isNone,
      negated? line = none :=
    fun line member => Option.isNone_iff_eq_none.mp (List.mem_filter.mp member).2
  obtain ⟨exclusion, made, regular, positive, negative⟩ :=
    Exclusion.exists_regular laws plainReadable markedReadable plain
  refine ⟨exclusion, made, fun path isDirectory => ?_⟩
  rw [regular.skips_iff laws, positive, negative, excluded_iff_skippedUnkept laws]

/-- A file of readable lines that trimming leaves as they are gives an exclusion. It skips what these
lines together skip, unless one of them keeps it. So the file decides as its lines do in their own order
about every path that no line undoes, and about all paths if each line that skips stands before all that
keep. -/
theorem ignoreFile_decides {disk : Disk} {path : String} {content : Bytes} {text : List Char}
    (stored : disk.content (Path.ofText path).text = .ok content)
    (decoded : decodeStrictly content = .ok text)
    (readable : ∀ line ∈ fileLines text, Readable line)
    (faithful : ∀ line ∈ fileLines text, TrimsFaithfully line) :
    ∃ exclusion test, Exclusion.ofFile disk path = .ok exclusion ∧
      PatternLibrary.compile (fileLines text) = .ok test ∧
      (∀ entry isDirectory, exclusion.skips entry isDirectory = true ↔
        test (entryText entry isDirectory) = true ∧
          ¬ Undone ((fileLines text).filterMap linePattern?) (entryText entry isDirectory)) ∧
      (∀ entry isDirectory,
        ¬ Undone ((fileLines text).filterMap linePattern?) (entryText entry isDirectory) ↔
          exclusion.skips entry isDirectory = test (entryText entry isDirectory)) ∧
      (((fileLines text).filterMap linePattern?).Pairwise
          (fun earlier later => earlier.keeps = true → later.keeps = true) →
        ∀ entry isDirectory,
          exclusion.skips entry isDirectory = test (entryText entry isDirectory)) := by
  obtain ⟨exclusion, made, decides⟩ :=
    Exclusion.ofText_decides laws (readable_ignoreLines faithful readable)
  rw [filterMap_ignoreLines laws faithful] at decides
  have read : Exclusion.ofFile disk path = .ok exclusion := by
    delta Exclusion.ofFile
    rw [stored]
    dsimp only
    rw [decoded]
    dsimp only
    rw [made]
    rfl
  obtain ⟨test, compiled⟩ := (laws.compiles (fileLines text)).mpr readable
  have inOrder := laws.lastDecides _ _ compiled
  have skips (entry : Path) (isDirectory : Bool) : exclusion.skips entry isDirectory = true ↔
      test (entryText entry isDirectory) = true ∧
        ¬ Undone ((fileLines text).filterMap linePattern?) (entryText entry isDirectory) := by
    rw [decides, skippedUnkept_iff, inOrder]
  have agrees (entry : Path) (isDirectory : Bool) :
      ¬ Undone ((fileLines text).filterMap linePattern?) (entryText entry isDirectory) ↔
        exclusion.skips entry isDirectory = test (entryText entry isDirectory) := by
    rw [Bool.eq_iff_iff, skips]
    refine ⟨fun notUndone => and_iff_left notUndone, fun same undone => ?_⟩
    exact (same.mpr ((inOrder _).trans undone.1)).2 undone
  exact ⟨exclusion, test, read, compiled, skips, agrees,
    fun sorted entry isDirectory => (agrees entry isDirectory).mp (not_undone sorted _)⟩

end

/-- A disk with nothing but a file of patterns on it: a comment, a pattern and an exception to it. -/
def patternDisk : Disk where
  entries := [("ignore", .file [0x23, 0x0A, 0x2A, 0x61, 0x0A, 0x21, 0x62, 0x61, 0x0A] 0o644)]
  ordered := ⟨fun _ member => absurd member List.not_mem_nil, trivial, trivial⟩

theorem ignoreFile_decides_exception :
    ∃ exclusion test, Exclusion.ofFile patternDisk "ignore" = .ok exclusion ∧
      PatternLibrary.compile ["#", "*a", "!ba"] = .ok test ∧ ∀ entry isDirectory,
        exclusion.skips entry isDirectory = test (entryText entry isDirectory) := by
  have found : patternDisk.lookup false "ignore" =
      .ok (.file [0x23, 0x0A, 0x2A, 0x61, 0x0A, 0x21, 0x62, 0x61, 0x0A] 0o644) := by
    refine Disk.lookup_name rfl ?_ ?_ ?_ ?_ ?_ ?_ <;> decide
  have decoded : decodeStrictly [0x23, 0x0A, 0x2A, 0x61, 0x0A, 0x21, 0x62, 0x61, 0x0A] =
      .ok "#\n*a\n!ba\n".toList := by decide +kernel
  have lines : fileLines "#\n*a\n!ba\n".toList = ["#", "*a", "!ba"] := by decide
  have comment : Rule.ofLine? "#" = .ok none := by decide
  have star : Rule.ofLine? "*a" =
      .ok (some ⟨false, .fromStart [.dirsAhead, .many notSlash, .one (.only 'a'), .boundary]⟩) := by
    decide
  have keep : Rule.ofLine? "!ba" =
      .ok (some ⟨true, .fromStart [.dirsAhead, .one (.only 'b'), .one (.only 'a'), .boundary]⟩) := by
    decide
  have readable : ∀ line ∈ fileLines "#\n*a\n!ba\n".toList, Readable line := by
    simp only [lines, readable_iff_ofLine?]
    simpa using ⟨⟨_, comment⟩, ⟨_, star⟩, ⟨_, keep⟩⟩
  have trims : ∀ line ∈ fileLines "#\n*a\n!ba\n".toList,
      trim line.toList = trimPatternEnd line.toList := by decide
  obtain ⟨exclusion, test, read, made, _, _, sorted⟩ :=
    ignoreFile_decides wildmatch_laws (Disk.content_normalForm found) decoded readable
      fun line member => trimsFaithfully_of_trim (trims line member)
  rw [lines] at made sorted
  refine ⟨exclusion, test, read, made, sorted ?_⟩
  simp [linePattern?_eq, lineRule?, comment, star, keep, Except.toOption, Rule.pattern]

/-- The rule for a name at any depth. -/
def nameRule (keeps : Bool) (name : List Char) : Rule :=
  ⟨keeps, .fromStart (.dirsAhead :: name.map (.one <| .only ·) ++ [.boundary])⟩

theorem matchesPath_nameRule (keeps : Bool) (name : List Char) :
    (nameRule keeps name).matchesPath name = true := by
  have steps : stepsMatch (name.map (.one <| .only ·) ++ [.boundary]) name = true := by
    induction name with
    | nil => simp [stepsMatch, atEnd]
    | cons c rest ih =>
      have itself : (CharSet.only c).holds c = true := by simp [CharSet.only, CharSet.holds]
      simp [stepsMatch, itself, ih]
  rw [Rule.matchesPath, nameRule]
  dsimp only
  rw [List.cons_append, stepsMatch, steps, Bool.true_or]

theorem skippedBy_nameRule {patterns : List Pattern} (keeps : Bool) {name : String}
    (relative : relativeText name.toList = name.toList) :
    skippedBy (patterns ++ [(nameRule keeps name.toList).pattern]) name = !keeps := by
  have last : (patterns ++ [(nameRule keeps name.toList).pattern]).reverse =
      (nameRule keeps name.toList).pattern :: patterns.reverse := by
    rw [List.reverse_append, List.reverse_singleton, List.singleton_append]
  have hit : (nameRule keeps name.toList).pattern.holds name = true := by
    rw [Rule.pattern]
    dsimp only
    rw [relative, matchesPath_nameRule]
  rw [skippedBy, last]
  simp only [List.find?_cons, hit]
  rfl

/-- A line that skips what a line before it keeps is overruled by it, and a file cannot have a line for a
name with a blank at its end. -/
theorem ignoreFile_reorders :
    (∃ exclusion test, Exclusion.ofText "!a\na\n".toList = .ok exclusion ∧
      PatternLibrary.compile (fileLines "!a\na\n".toList) = .ok test ∧
      test (entryText (.ofText "a") false) = true ∧
      exclusion.skips (.ofText "a") false = false) ∧
    ∃ test, PatternLibrary.compile (fileLines "a\\ \n".toList) = .ok test ∧
      test (entryText (.ofText "a ") false) = true ∧
      Exclusion.ofText "a\\ \n".toList = .error (.invalid "a\\") := by
  have name : entryText (.ofText "a") false = "a" := by decide
  have spacedName : entryText (.ofText "a ") false = "a " := by decide
  have made : Exclusion.ofText "!a\na\n".toList =
      .ok ⟨["a"], ["a"],
        skippedBy ([(nameRule false ['a']).pattern] ++ [(nameRule true ['a']).pattern])⟩ := rfl
  have inOrder : PatternLibrary.compile (fileLines "!a\na\n".toList) =
      .ok (skippedBy ([(nameRule true ['a']).pattern] ++ [(nameRule false ['a']).pattern])) := rfl
  have spaced : PatternLibrary.compile (fileLines "a\\ \n".toList) =
      .ok (skippedBy ([] ++ [(nameRule false ['a', ' ']).pattern])) := rfl
  refine ⟨⟨_, _, made, inOrder, ?_, ?_⟩, _, spaced, ?_, rfl⟩
  · rw [name]
    exact skippedBy_nameRule false rfl
  · rw [Exclusion.skips, name]
    exact skippedBy_nameRule true rfl
  · rw [spacedName]
    exact skippedBy_nameRule false rfl

end ShellSurvey
