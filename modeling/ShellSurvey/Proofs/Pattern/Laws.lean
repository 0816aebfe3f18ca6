import ShellSurvey.Exclusion

namespace ShellSurvey

section

variable [PatternLibrary]

/-- A line can be read, whether it has a pattern or not. -/
def Readable (line : String) : Prop := ∃ pattern?, PatternLibrary.pattern? line = .ok pattern?

/-- The pattern of a line, if it can be read and has one. -/
def linePattern? (line : String) : Option Pattern :=
  (PatternLibrary.pattern? line).toOption.join

/-- A line has a pattern, and the pattern matches a text. -/
def LineMatches (line text : String) : Prop :=
  ∃ pattern, linePattern? line = some pattern ∧ pattern.holds text = true

/-- What is known of a library. It compiles lines that it can read, each on its own, and the last pattern
that matches a text decides about it. A pattern keeps what it matches exactly if its line starts with an
exclamation mark, and neither an empty line nor one with a number sign at its start has a pattern. -/
structure PatternLibrary.Laws : Prop where
  compiles : ∀ lines, (∃ test, compile lines = .ok test) ↔ ∀ line ∈ lines, Readable line
  lastDecides : ∀ lines test, compile lines = .ok test →
    ∀ text, test text = skippedBy (lines.filterMap linePattern?) text
  keepsByMark : ∀ line pattern, linePattern? line = some pattern →
    pattern.keeps = (negated? line).isSome
  commentVoid : ∀ line : String, line = "" ∨ line.toList.head? = some '#' → linePattern? line = none

/-- A text of one line that begins neither with a slash nor with a dot and a slash. -/
structure PlainText (text : String) : Prop where
  oneLine : '\n' ∉ text.toList
  noSlash : text.toList.head? ≠ some '/'
  noDot : text.toList.take 2 ≠ ['.', '/']

/-- A name with a slash behind it is the line of a pattern that looks for directories of the name, on any
level of a path. -/
def PatternLibrary.FindsDirectories (names : List String) : Prop :=
  ∀ name ∈ names, Readable (name ++ "/") ∧
    ∃ pattern, linePattern? (name ++ "/") = some pattern ∧ ∀ text, PlainText text →
      (pattern.holds text = true ↔ name.toList ∈ (splitAt '/' text.toList).dropLast)

theorem readable_iff {line : String} :
    Readable line ↔ (PatternLibrary.pattern? line).toOption.isSome := by
  unfold Readable
  cases PatternLibrary.pattern? line <;> simp [Except.toOption]

theorem exists_pattern_matches {lines : List String} {text : String} :
    (∃ pattern ∈ lines.filterMap linePattern?, pattern.holds text = true) ↔
      ∃ line ∈ lines, LineMatches line text := by
  constructor
  · rintro ⟨pattern, member, hit⟩
    obtain ⟨line, listed, found⟩ := List.mem_filterMap.mp member
    exact ⟨line, listed, pattern, found, hit⟩
  · rintro ⟨line, listed, pattern, found, hit⟩
    exact ⟨pattern, List.mem_filterMap.mpr ⟨line, listed, found⟩, hit⟩

end

/-- The pattern that decides about a text is the last one that matches it. -/
theorem find?_reverse_cases (patterns : List Pattern) (text : String) :
    (∃ pattern ∈ patterns, patterns.reverse.find? (·.holds text) = some pattern ∧
      ∃ pattern ∈ patterns, pattern.holds text = true) ∨
    patterns.reverse.find? (·.holds text) = none ∧
      ¬ ∃ pattern ∈ patterns, pattern.holds text = true := by
  cases found : patterns.reverse.find? (·.holds text) with
  | some pattern =>
    have member := List.mem_reverse.mp (List.mem_of_find?_eq_some found)
    have matched := List.find?_some found
    exact Or.inl ⟨pattern, member, rfl, pattern, member, matched⟩
  | none => exact Or.inr ⟨rfl, by simpa using List.find?_eq_none.mp found⟩

/-- The last pattern that matches decides, so that patterns that keep override all patterns before them
that skip. -/
theorem skippedBy_append {skips keeps : List Pattern}
    (skipping : ∀ pattern ∈ skips, pattern.keeps = false)
    (keeping : ∀ pattern ∈ keeps, pattern.keeps = true) (text : String) :
    skippedBy (skips ++ keeps) text = true ↔
      (∃ pattern ∈ skips, pattern.holds text = true) ∧
        ¬ ∃ pattern ∈ keeps, pattern.holds text = true := by
  unfold skippedBy
  rw [List.reverse_append, List.find?_append]
  rcases find?_reverse_cases keeps text with ⟨pattern, member, decides, kept⟩ | ⟨undecided, unkept⟩
  · simp [decides, keeping pattern member, kept]
  · rw [undecided, Option.none_or]
    rcases find?_reverse_cases skips text with ⟨pattern, member, decides, skipped⟩ | ⟨undecided, unmet⟩
    · simp [decides, skipping pattern member, skipped, unkept]
    · simp [undecided, unmet]

end ShellSurvey
