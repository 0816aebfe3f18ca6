import ShellSurvey.Proofs.Pattern.RuleLines

namespace ShellSurvey

theorem negated?_bang (line : String) : negated? ("!" ++ line) = some line := by
  simp [negated?]

section

variable [PatternLibrary]

/-- An exclusion made of its own patterns, of which no positive one looks like a negative one. -/
structure Exclusion.Regular (exclusion : Exclusion) : Prop where
  made : Exclusion.ofPatterns exclusion.positive exclusion.negative = .ok exclusion
  plain : ∀ line ∈ exclusion.positive, negated? line = none

/-- What patterns decide, whatever their order. A negative pattern is read with its mark in front. -/
def Excluded (positive negative : List String) (text : String) : Prop :=
  (∃ line ∈ positive, LineMatches line text) ∧
    ¬ ∃ line ∈ negative, LineMatches ("!" ++ line) text

/-- Two exclusions decide alike about every path. -/
def Exclusion.Agrees (a b : Exclusion) : Prop :=
  ∀ path isDirectory, a.skips path isDirectory = b.skips path isDirectory

variable (laws : PatternLibrary.Laws)
include laws

/-- Patterns make an exclusion if they can be read, the negative ones with their mark in front. -/
theorem Exclusion.ofPatterns_ok_iff {positive negative : List String} :
    (∃ exclusion, Exclusion.ofPatterns positive negative = .ok exclusion) ↔
      (∀ line ∈ positive, Readable line) ∧ ∀ line ∈ negative, Readable ("!" ++ line) := by
  have lines : (∀ line ∈ exclusionLines positive negative, Readable line) ↔
      (∀ line ∈ positive, Readable line) ∧ ∀ line ∈ negative, Readable ("!" ++ line) := by
    rw [exclusionLines, List.forall_mem_append, List.forall_mem_map]
  rw [← lines, ← laws.compiles, ofPatterns]
  cases PatternLibrary.compile (exclusionLines positive negative) <;> simp [Except.map]

/-- What an exclusion consists of, and that the last of its patterns that matches decides. -/
theorem Exclusion.of_ofPatterns {positive negative : List String} {exclusion : Exclusion}
    (made : Exclusion.ofPatterns positive negative = .ok exclusion) :
    exclusion.positive = positive ∧ exclusion.negative = negative ∧ ∀ text,
      exclusion.test text = skippedBy ((exclusionLines positive negative).filterMap linePattern?)
        text := by
  unfold ofPatterns at made
  cases compiled : PatternLibrary.compile (exclusionLines positive negative) with
  | error flaw =>
    rw [compiled] at made
    cases made
  | ok test =>
    rw [compiled] at made
    cases made
    exact ⟨rfl, rfl, laws.lastDecides _ _ compiled⟩

/-- Whatever the order of its patterns, an exclusion skips what they exclude. -/
theorem Exclusion.Regular.skips_iff {exclusion : Exclusion} (regular : exclusion.Regular)
    (path : Path) (isDirectory : Bool) :
    exclusion.skips path isDirectory = true ↔
      Excluded exclusion.positive exclusion.negative (entryText path isDirectory) := by
  obtain ⟨_, _, decides⟩ := Exclusion.of_ofPatterns laws regular.made
  have skipping : ∀ pattern ∈ exclusion.positive.filterMap linePattern?, pattern.keeps = false := by
    intro pattern member
    obtain ⟨line, listed, found⟩ := List.mem_filterMap.mp member
    rw [laws.keepsByMark line pattern found, regular.plain line listed]
    rfl
  have keeping : ∀ pattern ∈ (exclusion.negative.map ("!" ++ ·)).filterMap linePattern?,
      pattern.keeps = true := by
    intro pattern member
    obtain ⟨marked, listed, found⟩ := List.mem_filterMap.mp member
    obtain ⟨line, _, rfl⟩ := List.mem_map.mp listed
    rw [laws.keepsByMark _ pattern found, negated?_bang]
    rfl
  have negative : (∃ marked ∈ exclusion.negative.map ("!" ++ ·),
      LineMatches marked (entryText path isDirectory)) ↔
        ∃ line ∈ exclusion.negative, LineMatches ("!" ++ line) (entryText path isDirectory) := by
    simp only [List.mem_map, exists_exists_and_eq_and]
  rw [skips, decides, exclusionLines, List.filterMap_append, skippedBy_append skipping keeping,
    exists_pattern_matches, exists_pattern_matches, negative]
  rfl

/-- Readable patterns make an exclusion. -/
theorem Exclusion.exists_regular {positive negative : List String}
    (readable : ∀ line ∈ positive, Readable line)
    (markedReadable : ∀ line ∈ negative, Readable ("!" ++ line))
    (plain : ∀ line ∈ positive, negated? line = none) :
    ∃ exclusion, Exclusion.ofPatterns positive negative = .ok exclusion ∧ exclusion.Regular ∧
      exclusion.positive = positive ∧ exclusion.negative = negative := by
  obtain ⟨exclusion, made⟩ := (Exclusion.ofPatterns_ok_iff laws).mpr ⟨readable, markedReadable⟩
  obtain ⟨rfl, rfl, _⟩ := Exclusion.of_ofPatterns laws made
  exact ⟨exclusion, made, ⟨made, plain⟩, rfl, rfl⟩

/-- Regular exclusions with the same patterns agree, however these are arranged or repeated. -/
theorem Exclusion.Regular.agrees {a b : Exclusion} (aRegular : a.Regular) (bRegular : b.Regular)
    (positive : ∀ line, line ∈ a.positive ↔ line ∈ b.positive)
    (negative : ∀ line, line ∈ a.negative ↔ line ∈ b.negative) : a.Agrees b := by
  intro path isDirectory
  rw [Bool.eq_iff_iff, aRegular.skips_iff laws, bRegular.skips_iff laws]
  simp only [Excluded, positive, negative]

/-- The sum of regular exclusions is one, of the patterns of both. -/
theorem Exclusion.Regular.add {a b : Exclusion} (aRegular : a.Regular) (bRegular : b.Regular) :
    ∃ sum, a.add b = .ok sum ∧ sum.Regular ∧
    sum.positive = a.positive ++ b.positive ∧ sum.negative = a.negative ++ b.negative := by
  obtain ⟨aReadable, aMarked⟩ := (Exclusion.ofPatterns_ok_iff laws).mp ⟨a, aRegular.made⟩
  obtain ⟨bReadable, bMarked⟩ := (Exclusion.ofPatterns_ok_iff laws).mp ⟨b, bRegular.made⟩
  exact Exclusion.exists_regular laws (List.forall_mem_append.mpr ⟨aReadable, bReadable⟩)
    (List.forall_mem_append.mpr ⟨aMarked, bMarked⟩)
    (List.forall_mem_append.mpr ⟨aRegular.plain, bRegular.plain⟩)

/-- No positive pattern of an ignore file starts with an exclamation mark. -/
theorem Exclusion.regular_ofText {text : List Char} {exclusion : Exclusion}
    (read : Exclusion.ofText text = .ok exclusion) : exclusion.Regular := by
  obtain ⟨positive, negative, _⟩ := Exclusion.of_ofPatterns laws read
  refine ⟨by rwa [positive, negative], fun line member => ?_⟩
  rw [positive] at member
  have plain := (List.mem_filter.mp member).2
  simpa using plain

omit laws

theorem excluded_append_positive {positive negative more : List String} {text : String}
    (excluded : Excluded positive negative text) : Excluded (positive ++ more) negative text := by
  obtain ⟨⟨line, listed, hit⟩, unkept⟩ := excluded
  exact ⟨⟨line, List.mem_append_left _ listed, hit⟩, unkept⟩

theorem excluded_of_append_negative {positive negative more : List String} {text : String}
    (excluded : Excluded positive (negative ++ more) text) : Excluded positive negative text := by
  obtain ⟨matched, unkept⟩ := excluded
  refine ⟨matched, ?_⟩
  rintro ⟨line, listed, hit⟩
  exact unkept ⟨line, List.mem_append_left _ listed, hit⟩

include laws in
/-- A sum of exclusions skips what some positive pattern of either matches and no negative pattern of
either does. In what they decide, sums may be taken in any order and nested in any way, and adding an
exclusion to itself changes nothing; positive patterns alone can only add to what is skipped, negative
ones alone can only take away from it, and the order of patterns does not count. -/
theorem exclusions_add_up {a b c : Exclusion} (aRegular : a.Regular) (bRegular : b.Regular)
    (cRegular : c.Regular) :
    ∃ ab ba, a.add b = .ok ab ∧ b.add a = .ok ba ∧ ab.Regular ∧
      (∀ path isDirectory, ab.skips path isDirectory = true ↔
        (∃ line ∈ a.positive ++ b.positive, LineMatches line (entryText path isDirectory)) ∧
          ¬ ∃ line ∈ a.negative ++ b.negative,
            LineMatches ("!" ++ line) (entryText path isDirectory)) ∧
      ba.Agrees ab ∧
      (∃ bc left right, b.add c = .ok bc ∧ ab.add c = .ok left ∧ a.add bc = .ok right ∧
        left.Agrees right) ∧
      (∃ aa, a.add a = .ok aa ∧ aa.Agrees a) ∧
      (b.negative = [] → ∀ path isDirectory,
        a.skips path isDirectory = true → ab.skips path isDirectory = true) ∧
      (b.positive = [] → ∀ path isDirectory,
        ab.skips path isDirectory = true → a.skips path isDirectory = true) ∧
      ∀ positive negative, positive.Perm a.positive → negative.Perm a.negative →
        ∃ other, Exclusion.ofPatterns positive negative = .ok other ∧ other.Agrees a := by
  obtain ⟨ab, abSum, abRegular, abPositive, abNegative⟩ := aRegular.add laws bRegular
  obtain ⟨ba, baSum, baRegular, baPositive, baNegative⟩ := bRegular.add laws aRegular
  obtain ⟨bc, bcSum, bcRegular, bcPositive, bcNegative⟩ := bRegular.add laws cRegular
  obtain ⟨left, leftSum, leftRegular, leftPositive, leftNegative⟩ := abRegular.add laws cRegular
  obtain ⟨right, rightSum, rightRegular, rightPositive, rightNegative⟩ := aRegular.add laws bcRegular
  obtain ⟨aa, aaSum, aaRegular, aaPositive, aaNegative⟩ := aRegular.add laws aRegular
  refine ⟨ab, ba, abSum, baSum, abRegular, ?_, ?_, ⟨bc, left, right, bcSum, leftSum, rightSum, ?_⟩,
    ⟨aa, aaSum, ?_⟩, ?_, ?_, ?_⟩
  · intro path isDirectory
    rw [abRegular.skips_iff laws, abPositive, abNegative]
    rfl
  · refine baRegular.agrees laws abRegular (fun line => ?_) (fun line => ?_)
    · rw [baPositive, abPositive, List.mem_append, List.mem_append, or_comm]
    · rw [baNegative, abNegative, List.mem_append, List.mem_append, or_comm]
  · refine leftRegular.agrees laws rightRegular (fun line => ?_) (fun line => ?_)
    · rw [leftPositive, abPositive, rightPositive, bcPositive, List.append_assoc]
    · rw [leftNegative, abNegative, rightNegative, bcNegative, List.append_assoc]
  · refine aaRegular.agrees laws aRegular (fun line => ?_) (fun line => ?_)
    · rw [aaPositive, List.mem_append, or_self]
    · rw [aaNegative, List.mem_append, or_self]
  · intro onlyPositive path isDirectory
    rw [aRegular.skips_iff laws, abRegular.skips_iff laws, abPositive, abNegative, onlyPositive,
      List.append_nil]
    exact excluded_append_positive
  · intro onlyNegative path isDirectory
    rw [aRegular.skips_iff laws, abRegular.skips_iff laws, abPositive, abNegative, onlyNegative,
      List.append_nil]
    exact excluded_of_append_negative
  · intro positive negative samePositive sameNegative
    obtain ⟨readable, marked⟩ := (Exclusion.ofPatterns_ok_iff laws).mp ⟨a, aRegular.made⟩
    obtain ⟨other, made, otherRegular, rfl, rfl⟩ := Exclusion.exists_regular laws
      (fun line member => readable line (samePositive.mem_iff.mp member))
      (fun line member => marked line (sameNegative.mem_iff.mp member))
      (fun line member => aRegular.plain line (samePositive.mem_iff.mp member))
    exact ⟨other, made, otherRegular.agrees laws aRegular (fun _ => samePositive.mem_iff)
      fun _ => sameNegative.mem_iff⟩

end

theorem Exclusion.regular_standard : Exclusion.standard.Regular := by
  refine ⟨rfl, ?_⟩
  decide

/-- A file that asks for names in `a`, and for what starts with a number sign to be kept. As a positive
pattern the latter would be a comment. -/
def keepSigns : Exclusion where
  positive := ["*a"]
  negative := ["#*"]
  test := skippedBy (["*a", "!#*"].filterMap linePattern?)

theorem keepSigns_read : Exclusion.ofText "*a\n!#*".toList = .ok keepSigns := rfl

theorem keepSigns_matches : LineMatches "*a" "ba" ∧ LineMatches "!#*" "#a" ∧
    ¬ LineMatches "!#*" "ba" := by
  have star : lineRule? "*a" =
      some ⟨false, .fromStart [.dirsAhead, .many notSlash, .one (.only 'a'), .boundary]⟩ := by decide
  have signs : lineRule? "!#*" =
      some ⟨true, .fromStart [.dirsAhead, .one (.only '#'), .many notSlash, .boundary]⟩ := by decide
  have holds : (CharSet.only 'a').holds 'a' = true ∧ notSlash.holds 'b' = true ∧
      (CharSet.only '#').holds '#' = true ∧ notSlash.holds 'a' = true ∧
      (CharSet.only '#').holds 'b' = false ∧ (CharSet.only '#').holds 'a' = false ∧
      slash.holds 'a' = false := by
    decide
  have named : relativeText ['b', 'a'] = ['b', 'a'] ∧ relativeText ['#', 'a'] = ['#', 'a'] := by
    decide
  refine ⟨⟨_, (linePattern?_eq _).trans (congrArg _ star), ?_⟩,
    ⟨_, (linePattern?_eq _).trans (congrArg _ signs), ?_⟩, ?_⟩
  · simp [Rule.pattern, Rule.matchesPath, named, stepsMatch, holds, atEnd]
  · simp [Rule.pattern, Rule.matchesPath, named, stepsMatch, holds, atEnd]
  · rintro ⟨pattern, found, hit⟩
    rw [linePattern?_eq, signs] at found
    cases found
    simp [Rule.pattern, Rule.matchesPath, named, stepsMatch, holds, Step.expansion] at hit

theorem exclusions_add_up_signs :
    ∃ sum again, Exclusion.standard.add keepSigns = .ok sum ∧
      keepSigns.add .standard = .ok again ∧ again.Agrees sum ∧
      sum.skips ⟨0, ["ba"]⟩ false = true ∧ sum.skips ⟨0, ["#a"]⟩ false = false := by
  have fileRegular : keepSigns.Regular := Exclusion.regular_ofText wildmatch_laws keepSigns_read
  obtain ⟨sum, again, added, swapped, _, decides, agrees, _⟩ :=
    exclusions_add_up wildmatch_laws Exclusion.regular_standard fileRegular
      Exclusion.regular_standard
  obtain ⟨star, signs, unsigned⟩ := keepSigns_matches
  have skipped : entryText ⟨0, ["ba"]⟩ false = "ba" := by decide
  have kept : entryText ⟨0, ["#a"]⟩ false = "#a" := by decide
  have negative : Exclusion.standard.negative ++ keepSigns.negative = ["#*"] := rfl
  refine ⟨sum, again, added, swapped, agrees, ?_, ?_⟩
  · rw [decides, skipped, negative]
    refine ⟨⟨"*a", by decide, star⟩, ?_⟩
    rintro ⟨line, member, hit⟩
    rw [List.mem_singleton.mp member] at hit
    exact unsigned hit
  · rw [Bool.eq_false_iff, Ne, decides, kept, negative]
    rintro ⟨_, unkept⟩
    exact unkept ⟨"#*", List.mem_singleton.mpr rfl, signs⟩

end ShellSurvey
