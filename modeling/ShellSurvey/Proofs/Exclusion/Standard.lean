import ShellSurvey.Proofs.Exclusion.Sum
import ShellSurvey.Proofs.Pattern.Directories
import ShellSurvey.Proofs.Walk.Coverage

namespace ShellSurvey

/-- A name that an entry of a directory can have, on one line. -/
def PlainName (name : String) : Prop := ProperName name ∧ '\n' ∉ name.toList

instance (name : String) : Decidable (PlainName name) := inferInstanceAs (Decidable (_ ∧ _))

/-- What rules are tried on: names with slashes between them, and one behind them for a directory. -/
def slashedNames (names : List String) (isDirectory : Bool) : List Char :=
  joinWith ['/'] (names.map String.toList) ++ if isDirectory then ['/'] else []

section

variable {names : List String} (plain : ∀ name ∈ names, PlainName name)
include plain

theorem not_mem_slashedNames (isDirectory : Bool) : '\n' ∉ slashedNames names isDirectory := by
  rw [slashedNames, List.mem_append]
  rintro (inside | behind)
  · rcases mem_joinWith inside with between | ⟨piece, known, inside⟩
    · exact absurd between (by decide)
    · obtain ⟨name, member, rfl⟩ := List.mem_map.mp known
      exact (plain name member).2 inside
  · split at behind
    · exact absurd behind (by decide)
    · cases behind

variable (nonempty : names ≠ [])
include nonempty

theorem splitAt_slashedNames (isDirectory : Bool) : splitAt '/' (slashedNames names isDirectory) =
    names.map String.toList ++ if isDirectory then [[]] else [] := by
  have pieces : splitAt '/' (joinWith ['/'] (names.map String.toList)) =
      names.map String.toList := by
    refine splitAt_joinWith (by simpa using nonempty) fun piece member => ?_
    obtain ⟨name, known, rfl⟩ := List.mem_map.mp member
    exact (plain name known).1.2.2
  cases isDirectory with
  | false => simpa [slashedNames] using pieces
  | true =>
    rw [slashedNames, if_pos rfl, splitAt_append_separator, pieces]
    rfl

theorem mem_dropLast_slashedNames {isDirectory : Bool} {name : String} :
    name.toList ∈ (splitAt '/' (slashedNames names isDirectory)).dropLast ↔
      name ∈ if isDirectory then names else names.dropLast := by
  rw [splitAt_slashedNames plain nonempty]
  cases isDirectory with
  | false => simp [← List.map_dropLast, String.toList_inj]
  | true => simp [String.toList_inj]

/-- The first name is neither empty nor a dot, so nothing is left out at the start. -/
theorem slashedNames_begins (isDirectory : Bool) (rest : List Char) :
    slashedNames names isDirectory ≠ '/' :: rest ∧
      slashedNames names isDirectory ≠ '.' :: '/' :: rest := by
  have pieces := splitAt_slashedNames plain nonempty isDirectory
  obtain ⟨first, more, rfl⟩ := List.exists_cons_of_ne_nil nonempty
  obtain ⟨named, noDot, _⟩ := (plain first List.mem_cons_self).1
  constructor
  · intro text
    rw [text, splitAt_cons, if_pos rfl] at pieces
    exact named (String.toList_inj.mp (List.cons.inj pieces).1.symm)
  · intro text
    have free : '/' ∉ ['.'] := by decide
    have dot : splitAt '/' ('.' :: '/' :: rest) = ['.'] :: splitAt '/' rest :=
      splitAt_append_cons free rest
    rw [text, dot] at pieces
    exact noDot (String.toList_inj.mp (List.cons.inj pieces).1.symm)

theorem toList_entryText_descend (isDirectory : Bool) :
    (entryText (Path.here.descend names) isDirectory).toList = slashedNames names isDirectory := by
  have text : (Path.here.descend names).text.toList = slashedNames names false := by
    obtain ⟨first, more, rfl⟩ := List.exists_cons_of_ne_nil nonempty
    exact (Path.toList_text 0 first more).trans (by simp [slashedNames])
  have ends : (slashedNames names false).getLast? ≠ some '/' := by
    intro last
    obtain ⟨front, split⟩ := List.getLast?_eq_some_iff.mp last
    have pieces := splitAt_slashedNames plain nonempty false
    rw [split, splitAt_append_separator] at pieces
    have empty : [] ∈ names.map String.toList := by
      rw [← List.append_nil (names.map String.toList)]
      exact pieces ▸ List.mem_append_right _ List.mem_cons_self
    obtain ⟨name, known, nothing⟩ := List.mem_map.mp empty
    exact (plain name known).1.1 (String.toList_inj.mp nothing)
  unfold entryText
  rw [text]
  cases isDirectory with
  | false => exact text
  | true =>
    have open' : ((slashedNames names false).getLast? != some '/') = true := bne_iff_ne.mpr ends
    rw [open', Bool.and_self, if_pos rfl, String.toList_append, text]
    simp [slashedNames]

theorem plainText_descend (isDirectory : Bool) :
    PlainText (entryText (Path.here.descend names) isDirectory) := by
  have begins := slashedNames_begins plain nonempty isDirectory
  constructor <;> rw [toList_entryText_descend plain nonempty]
  · exact not_mem_slashedNames plain isDirectory
  · intro head
    obtain ⟨rest, text⟩ := List.head?_eq_some_iff.mp head
    exact (begins rest).1 text
  · intro front
    have split := List.take_append_drop 2 (slashedNames names isDirectory)
    rw [front] at split
    exact (begins _).2 split.symm

end

theorem standardPatterns_eq : standardPatterns = dependencyNames.map (· ++ "/") := by decide

section

variable [PatternLibrary] (laws : PatternLibrary.Laws)
  (finds : PatternLibrary.FindsDirectories dependencyNames)
include laws finds

/-- A library that finds directories of dependencies makes the standard exclusion. -/
theorem Exclusion.standard_made : Exclusion.ofPatterns standardPatterns [] = .ok .standard := by
  have lines : exclusionLines standardPatterns [] = standardPatterns := rfl
  have readable : ∀ line ∈ standardPatterns, Readable line := by
    intro line member
    rw [standardPatterns_eq] at member
    obtain ⟨name, known, rfl⟩ := List.mem_map.mp member
    exact (finds name known).1
  obtain ⟨test, compiled⟩ := (laws.compiles standardPatterns).mpr readable
  rw [ofPatterns, standard, lines, compiled]
  rfl

/-- A path is skipped if one of its directories, the directory at its end included, has the name of one of
version control or of dependencies. -/
theorem skips_standard_iff {names : List String} (plain : ∀ name ∈ names, PlainName name)
    (nonempty : names ≠ []) {isDirectory : Bool} :
    Exclusion.standard.skips (Path.here.descend names) isDirectory = true ↔
      ∃ name ∈ if isDirectory then names else names.dropLast, name ∈ dependencyNames := by
  have unmarked : ∀ line ∈ standardPatterns, negated? line = none := by decide
  have regular : Exclusion.standard.Regular := ⟨Exclusion.standard_made laws finds, unmarked⟩
  have listed : Exclusion.standard.positive = dependencyNames.map (· ++ "/") := standardPatterns_eq
  have noNegative : ¬ ∃ line ∈ Exclusion.standard.negative, LineMatches ("!" ++ line)
      (entryText (Path.here.descend names) isDirectory) := by
    rintro ⟨line, member, _⟩
    cases member
  have text := plainText_descend plain nonempty isDirectory
  have component {name : String} (known : name ∈ dependencyNames) :
      LineMatches (name ++ "/") (entryText (Path.here.descend names) isDirectory) ↔
        name ∈ if isDirectory then names else names.dropLast := by
    obtain ⟨_, pattern, found, holds⟩ := finds name known
    rw [LineMatches, found, ← mem_dropLast_slashedNames plain nonempty,
      ← toList_entryText_descend plain nonempty, ← holds _ text]
    simp
  rw [regular.skips_iff laws, Excluded, and_iff_left noNegative, listed]
  constructor
  · rintro ⟨line, member, matched⟩
    obtain ⟨name, known, rfl⟩ := List.mem_map.mp member
    exact ⟨name, (component known).mp matched, known⟩
  · rintro ⟨name, member, known⟩
    exact ⟨name ++ "/", List.mem_map_of_mem known, (component known).mpr member⟩

end

end ShellSurvey
