import Mathlib.Data.List.DropRight
import ShellSurvey.Proofs.Pattern.Laws

namespace ShellSurvey

/-- The rule of a line, if it can be read and has one. -/
def lineRule? (line : String) : Option Rule := (Rule.ofLine? line).toOption.join

theorem lineRule?_eq_some_iff {line : String} {rule : Rule} :
    lineRule? line = some rule ↔ Rule.ofLine? line = .ok (some rule) := by
  unfold lineRule?
  cases Rule.ofLine? line with
  | ok rule? => simp [Except.toOption]
  | error flaw => simp [Except.toOption]

theorem linePattern?_eq (line : String) : linePattern? line = (lineRule? line).map Rule.pattern := by
  unfold linePattern? lineRule?
  rw [PatternLibrary.pattern?, wildmatch]
  dsimp only
  cases Rule.ofLine? line with
  | ok rule? => cases rule? <;> rfl
  | error flaw => rfl

theorem readable_iff_ofLine? {line : String} :
    Readable line ↔ ∃ rule?, Rule.ofLine? line = .ok rule? := by
  rw [readable_iff, PatternLibrary.pattern?, wildmatch]
  dsimp only
  cases Rule.ofLine? line <;> simp [Except.map, Except.toOption]

theorem Rule.ofLines_cons (line : String) (rest : List String) :
    Rule.ofLines (line :: rest) = (do
      let rule? ← Rule.ofLine? line
      let rules ← Rule.ofLines rest
      return rule?.toList ++ rules) := by
  rw [Rule.ofLines]
  split
  · next empty =>
    have void : Rule.ofLine? "" = .ok none := by decide
    rw [empty, void]
    cases Rule.ofLines rest <;> rfl
  · rfl

/-- Lines can be read together if each can be read, and then their rules are those of the lines. -/
theorem Rule.ofLines_eq_ok_iff {lines : List String} {rules : List Rule} :
    Rule.ofLines lines = .ok rules ↔
      (∀ line ∈ lines, ∃ rule?, Rule.ofLine? line = .ok rule?) ∧
        rules = lines.filterMap lineRule? := by
  induction lines generalizing rules with
  | nil => simp [Rule.ofLines, eq_comm]
  | cons line rest ih =>
    rw [Rule.ofLines_cons, List.forall_mem_cons]
    cases read : Rule.ofLine? line with
    | error flaw => simp [bind, Except.bind]
    | ok rule? =>
      have rule : lineRule? line = rule? := by rw [lineRule?, read]; rfl
      cases later : Rule.ofLines rest with
      | error flaw =>
        have unreadable : ¬ ∀ line ∈ rest, ∃ rule?, Rule.ofLine? line = .ok rule? := by
          intro all
          cases later.symm.trans (ih.mpr ⟨all, rfl⟩)
        simp [bind, Except.bind, unreadable]
      | ok others =>
        obtain ⟨all, same⟩ := ih.mp later
        have sum : (line :: rest).filterMap lineRule? = rule?.toList ++ others := by
          rw [same, ← rule]
          cases rule : lineRule? line <;> simp [rule]
        rw [sum]
        constructor
        · intro read
          cases read
          exact ⟨⟨⟨rule?, rfl⟩, all⟩, rfl⟩
        · rintro ⟨_, rfl⟩
          rfl

theorem trimPatternEnd_prefix (line : List Char) : trimPatternEnd line <+: line := by
  unfold trimPatternEnd
  split
  · exact List.prefix_refl line
  · exact List.rdropWhile_prefix isBlank line

/-- The rule of a pattern whose sign is taken off. -/
def Rule.ofPattern? (line : String) (keeps : Bool) (pattern : List Char) :
    Except PatternFlaw (Option Rule) :=
  if patternSegments pattern = [] then .error (.invalid line)
  else
    match segmentsTest (pattern.getLast? == some '/') (patternSegments pattern) with
    | .error .danglingEscape => .error (.invalid line)
    | .error .openBracket => .ok none
    | .ok test => if test.backward then .error .backwardRange else .ok (some ⟨keeps, test⟩)

theorem Rule.keeps_ofPattern? {line : String} {keeps : Bool} {pattern : List Char} {rule : Rule}
    (read : Rule.ofPattern? line keeps pattern = .ok (some rule)) : rule.keeps = keeps := by
  unfold ofPattern? at read
  split at read
  · cases read
  split at read
  · cases read
  · cases read
  · split at read <;> cases read
    rfl

/-- A line with a rule is a pattern with its sign. -/
theorem Rule.ofLine?_eq_ok_some {line : String} {rule : Rule}
    (read : Rule.ofLine? line = .ok (some rule)) :
    (∃ pattern, trimPatternEnd line.toList = '!' :: pattern ∧
      Rule.ofPattern? line true pattern = .ok (some rule)) ∨
    ∃ c pattern, c ≠ '!' ∧ trimPatternEnd line.toList = c :: pattern ∧
      Rule.ofPattern? line false (c :: pattern) = .ok (some rule) := by
  unfold Rule.ofLine? at read
  cases text : trimPatternEnd line.toList with
  | nil =>
    rw [text] at read
    simp at read
  | cons c pattern =>
    rw [text] at read
    dsimp only at read
    split at read
    · cases read
    by_cases bang : c = '!'
    · subst bang
      exact Or.inl ⟨pattern, rfl, read⟩
    · refine Or.inr ⟨c, pattern, bang, rfl, ?_⟩
      rw [← read]
      split
      · next rest same => exact absurd (List.cons.inj same).1 bang
      · rfl

/-- A rule keeps what it matches if its line starts with an exclamation mark. -/
theorem lineRule?_keeps {line : String} {rule : Rule} (found : lineRule? line = some rule) :
    rule.keeps = (negated? line).isSome := by
  obtain ⟨after, front⟩ := trimPatternEnd_prefix line.toList
  unfold negated?
  rcases Rule.ofLine?_eq_ok_some (lineRule?_eq_some_iff.mp found) with
    ⟨pattern, text, read⟩ | ⟨c, pattern, noBang, text, read⟩
  · rw [Rule.keeps_ofPattern? read, ← front, text]
    rfl
  · rw [Rule.keeps_ofPattern? read, ← front, text]
    simp [noBang]

/-- A comment has no rule, and neither has an empty line. -/
theorem lineRule?_comment {line : String} (void : line = "" ∨ line.toList.head? = some '#') :
    lineRule? line = none := by
  have read : Rule.ofLine? line = .ok none := by
    unfold Rule.ofLine?
    refine if_pos ?_
    rcases void with rfl | sign
    · exact Or.inl rfl
    · obtain ⟨after, front⟩ := trimPatternEnd_prefix line.toList
      cases text : trimPatternEnd line.toList with
      | nil => exact Or.inl rfl
      | cons c rest =>
        rw [← front, text, List.cons_append, List.head?_cons] at sign
        exact Or.inr (Or.inr sign)
  rw [lineRule?, read]
  rfl

theorem wildmatch_laws : PatternLibrary.Laws where
  compiles lines := by
    have all : (∀ line ∈ lines, Readable line) ↔
        ∀ line ∈ lines, ∃ rule?, Rule.ofLine? line = .ok rule? :=
      forall₂_congr fun _ _ => readable_iff_ofLine?
    rw [all, PatternLibrary.compile, wildmatch]
    dsimp only
    cases read : Rule.ofLines lines with
    | ok rules => simpa [Except.map] using (Rule.ofLines_eq_ok_iff.mp read).1
    | error flaw =>
      simp only [Except.map, reduceCtorEq, exists_false, false_iff]
      intro readable
      cases read.symm.trans (Rule.ofLines_eq_ok_iff.mpr ⟨readable, rfl⟩)
  lastDecides lines test compiled text := by
    rw [PatternLibrary.compile, wildmatch] at compiled
    dsimp only at compiled
    cases read : Rule.ofLines lines with
    | ok rules =>
      rw [read] at compiled
      cases compiled
      have patterns : lines.filterMap linePattern? = rules.map Rule.pattern := by
        rw [(Rule.ofLines_eq_ok_iff.mp read).2, List.map_filterMap]
        exact List.filterMap_congr fun line _ => linePattern?_eq line
      rw [patterns]
    | error flaw =>
      rw [read] at compiled
      cases compiled
  keepsByMark line pattern found := by
    rw [linePattern?_eq, Option.map_eq_some_iff] at found
    obtain ⟨rule, known, rfl⟩ := found
    exact lineRule?_keeps known
  commentVoid line void := by rw [linePattern?_eq, lineRule?_comment void, Option.map_none]

end ShellSurvey
