import ShellSurvey.Proofs.Pattern.RuleLines
import ShellSurvey.Proofs.Walk.Names

namespace ShellSurvey

/-- Names of directories of version control and of dependencies. -/
def dependencyNames : List String := [".git", ".venv", "node_modules", "vendor"]

section

variable {steps : List Step} {cs : List Char}

theorem CharSet.holds_only {c other : Char} : (CharSet.only c).holds other = true ↔ other = c := by
  have codes : c.toNat ≤ other.toNat ∧ other.toNat ≤ c.toNat ↔ other = c := by
    rw [← Char.toNat_inj]
    omega
  simpa [CharSet.only, CharSet.holds] using codes

theorem stepsMatch_only {c : Char} : stepsMatch (.one (.only c) :: steps) cs = true ↔
    ∃ rest, cs = c :: rest ∧ stepsMatch steps rest = true := by
  cases cs with
  | nil => simp [stepsMatch]
  | cons other rest =>
    rw [stepsMatch, Bool.and_eq_true, CharSet.holds_only]
    simp [and_assoc]

theorem stepsMatch_word (word : List Char) :
    stepsMatch (word.map (.one <| .only ·) ++ steps) cs = true ↔
      ∃ rest, cs = word ++ rest ∧ stepsMatch steps rest = true := by
  induction word generalizing cs with
  | nil => simp
  | cons c word ih =>
    rw [List.map_cons, List.cons_append, stepsMatch_only]
    simp [ih]

theorem notLineFeed_holds {c : Char} : notLineFeed.holds c = true ↔ c ≠ '\n' := by
  have other : notLineFeed.holds c = !(CharSet.only '\n').holds c := by
    simp [notLineFeed, CharSet.except, CharSet.only, CharSet.holds]
  rw [other, Bool.not_eq_true', ← Bool.not_eq_true, CharSet.holds_only]

variable (oneLine : '\n' ∉ cs)
include oneLine

theorem stepsMatch_many : stepsMatch (.many notLineFeed :: steps) cs = true ↔
    ∃ before rest, cs = before ++ rest ∧ stepsMatch steps rest = true := by
  induction cs with
  | nil => simp [stepsMatch]
  | cons c cs ih =>
    rw [List.mem_cons, not_or] at oneLine
    have other : c ≠ '\n' := Ne.symm oneLine.1
    rw [stepsMatch, Bool.or_eq_true, Bool.and_eq_true, ih oneLine.2, notLineFeed_holds]
    constructor
    · rintro (here | ⟨_, before, rest, rfl, later⟩)
      · exact ⟨[], c :: cs, rfl, here⟩
      · exact ⟨c :: before, rest, rfl, later⟩
    · rintro ⟨before, rest, split, matched⟩
      cases before with
      | nil => exact Or.inl (split ▸ matched)
      | cons first before =>
        cases split
        exact Or.inr ⟨other, before, rest, rfl, matched⟩

/-- Directories ahead are some text with a slash behind it, on a line of its own. -/
theorem stepsMatch_dirsAhead : stepsMatch (.dirsAhead :: steps) cs = true ↔
    stepsMatch steps cs = true ∨
      ∃ before rest, before ≠ [] ∧ cs = before ++ '/' :: rest ∧ stepsMatch steps rest = true := by
  rw [stepsMatch, Bool.or_eq_true]
  refine or_congr_right ?_
  cases cs with
  | nil => simp [stepsMatch, Step.expansion]
  | cons c cs =>
    rw [List.mem_cons, not_or] at oneLine
    have other : c ≠ '\n' := Ne.symm oneLine.1
    have expanded : Step.dirsAhead.expansion ++ steps =
        .one notLineFeed :: .many notLineFeed :: .one (.only '/') :: steps := rfl
    rw [expanded, stepsMatch, Bool.and_eq_true, notLineFeed_holds, stepsMatch_many oneLine.2]
    constructor
    · rintro ⟨_, before, closing, rfl, closed⟩
      obtain ⟨rest, rfl, matched⟩ := stepsMatch_only.mp closed
      exact ⟨c :: before, rest, List.cons_ne_nil _ _, rfl, matched⟩
    · rintro ⟨before, rest, some, split, matched⟩
      obtain ⟨first, before, rfl⟩ := List.exists_cons_of_ne_nil some
      cases split
      exact ⟨other, before, '/' :: rest, rfl, stepsMatch_only.mpr ⟨rest, rfl, matched⟩⟩

end

/-- A piece that is not the last has a separator behind it, and one in front of it unless it is the
first. -/
theorem mem_dropLast_splitAt {α : Type} [DecidableEq α] {separator : α} {xs piece : List α}
    (free : separator ∉ piece) : piece ∈ (splitAt separator xs).dropLast ↔
      (∃ rest, xs = piece ++ separator :: rest) ∨
        ∃ before rest, xs = before ++ separator :: (piece ++ separator :: rest) := by
  constructor
  · intro member
    obtain ⟨front, back, pieces⟩ := List.append_of_mem member
    obtain ⟨last, whole⟩ : ∃ last, splitAt separator xs = front ++ piece :: (back ++ [last]) := by
      refine ⟨(splitAt separator xs).getLast (splitAt_ne_nil separator xs), ?_⟩
      conv_lhs => rw [← List.dropLast_append_getLast (splitAt_ne_nil separator xs), pieces]
      simp
    have joined := (joinWith_splitAt separator xs).symm
    rw [whole] at joined
    have behind : joinWith [separator] (piece :: (back ++ [last])) =
        piece ++ separator :: joinWith [separator] (back ++ [last]) := by
      rw [joinWith_cons _ _ (by simp)]
      simp
    cases front with
    | nil => exact Or.inl ⟨_, joined.trans behind⟩
    | cons first front =>
      rw [joinWith_append _ (List.cons_ne_nil _ _) (List.cons_ne_nil _ _), behind] at joined
      exact Or.inr ⟨_, _, by simpa using joined⟩
  · rintro (⟨rest, rfl⟩ | ⟨before, rest, rfl⟩)
    · rw [splitAt_append_cons free, List.dropLast_cons_of_ne_nil (splitAt_ne_nil separator rest)]
      exact List.mem_cons_self
    · rw [splitAt_append_separator, splitAt_append_cons free,
        List.dropLast_append_of_ne_nil (List.cons_ne_nil _ _),
        List.dropLast_cons_of_ne_nil (splitAt_ne_nil separator rest)]
      exact List.mem_append_right _ List.mem_cons_self

/-- The rule for directories of a name at any depth. -/
def directoryRule (name : String) : Rule :=
  ⟨false, .fromStart (.dirsAhead :: (name.toList.map (.one <| .only ·) ++ [.one slash]))⟩

/-- On one line that does not begin with a slash, the rule looks for a name with a slash behind it. -/
theorem matchesPath_directoryRule {name : String} (proper : ProperName name) {cs : List Char}
    (oneLine : '\n' ∉ cs) (begins : cs.head? ≠ some '/') :
    (directoryRule name).matchesPath cs = true ↔ name.toList ∈ (splitAt '/' cs).dropLast := by
  have ends (rest : List Char) : stepsMatch [.one slash] rest = true ↔ ∃ tail, rest = '/' :: tail := by
    rw [slash, stepsMatch_only]
    simp [stepsMatch]
  have atStart (cs : List Char) :
      stepsMatch (name.toList.map (.one <| .only ·) ++ [.one slash]) cs = true ↔
        ∃ tail, cs = name.toList ++ '/' :: tail := by
    rw [stepsMatch_word]
    constructor
    · rintro ⟨rest, rfl, closed⟩
      obtain ⟨tail, rfl⟩ := (ends rest).mp closed
      exact ⟨tail, rfl⟩
    · rintro ⟨tail, rfl⟩
      exact ⟨_, rfl, (ends _).mpr ⟨tail, rfl⟩⟩
  rw [mem_dropLast_splitAt proper.2.2, Rule.matchesPath, directoryRule]
  dsimp only
  rw [stepsMatch_dirsAhead oneLine, atStart]
  refine or_congr_right ?_
  constructor
  · rintro ⟨before, rest, _, rfl, later⟩
    obtain ⟨tail, rfl⟩ := (atStart rest).mp later
    exact ⟨before, tail, rfl⟩
  · rintro ⟨before, tail, rfl⟩
    have some : before ≠ [] := by
      rintro rfl
      exact begins rfl
    exact ⟨before, _, some, rfl, (atStart _).mpr ⟨tail, rfl⟩⟩

theorem PlainText.relativeText {text : String} (plain : PlainText text) :
    relativeText text.toList = text.toList := by
  obtain ⟨_, noSlash, noDot⟩ := plain
  unfold ShellSurvey.relativeText
  split
  · next rest slash => exact absurd (congrArg List.head? slash) noSlash
  · next rest dot => exact absurd (congrArg (List.take 2) dot) noDot
  · rfl

/-- The patterns that are used look for directories of these names. -/
theorem wildmatch_findsDirectories : PatternLibrary.FindsDirectories dependencyNames := by
  have proper : ∀ name ∈ dependencyNames, ProperName name := by decide
  have read : ∀ name ∈ dependencyNames,
      Rule.ofLine? (name ++ "/") = .ok (some (directoryRule name)) := by decide
  intro name known
  refine ⟨readable_iff_ofLine?.mpr ⟨_, read name known⟩, (directoryRule name).pattern, ?_, ?_⟩
  · rw [linePattern?_eq, lineRule?, read name known]
    rfl
  · intro text plain
    rw [Rule.pattern]
    dsimp only
    rw [plain.relativeText, matchesPath_directoryRule (proper name known) plain.oneLine plain.noSlash]

end ShellSurvey
