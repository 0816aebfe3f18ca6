import Mathlib.Data.List.TakeWhile
import ShellSurvey.Rule.Content

namespace ShellSurvey

/-- A statement at a line of a script. Lines count from one. -/
def StatementAt (lines : List Line) (number : Nat) (statement : Line) : Prop :=
  ∃ index line, lines[index]? = some line ∧ number = index + 1 ∧ statement = trim line ∧
    statement ≠ [] ∧ isComment statement = false

/-- Some statement of a script has a form. -/
def HasStatement (lines : List Line) (form : Line → Prop) : Prop :=
  ∃ number statement, StatementAt lines number statement ∧ form statement

section

variable {lines others : List Line} {number : Nat} {statement : Line}

theorem mem_statements :
    (number, statement) ∈ statements lines ↔ StatementAt lines number statement := by
  unfold statements
  rw [List.mem_filterMap]
  constructor
  · rintro ⟨⟨text, position⟩, member, kept⟩
    obtain ⟨first, there⟩ := List.mk_mem_zipIdx_iff_le_and_getElem?_sub.mp member
    rw [List.getElem?_map, Option.map_eq_some_iff] at there
    obtain ⟨line, there, rfl⟩ := there
    dsimp only at kept
    by_cases skipped : (trim line = [] || isComment (trim line)) = true
    · rw [if_pos skipped] at kept
      cases kept
    · rw [if_neg skipped] at kept
      cases kept
      simp only [Bool.or_eq_true, decide_eq_true_eq, not_or, Bool.not_eq_true] at skipped
      exact ⟨_, line, there, by omega, rfl, skipped.1, skipped.2⟩
  · rintro ⟨index, line, there, rfl, rfl, visible, noComment⟩
    refine ⟨(trim line, index + 1), List.mk_mem_zipIdx_iff_le_and_getElem?_sub.mpr ⟨?_, ?_⟩, ?_⟩
    · omega
    · rw [List.getElem?_map, Nat.add_sub_cancel, there, Option.map_some]
    · simp [visible, noComment]

/-- Statements come in the order of their lines. -/
theorem pairwise_statements (lines : List Line) :
    (statements lines).Pairwise fun earlier later => earlier.1 < later.1 := by
  have numbered : ((lines.map trim).zipIdx 1).Pairwise fun earlier later => earlier.2 < later.2 := by
    rw [← List.pairwise_map (f := Prod.snd), List.zipIdx_map_snd]
    exact List.pairwise_lt_range' 1
  refine numbered.filterMap _ ?_
  rintro ⟨text, position⟩ ⟨other, later⟩ less statement kept next keptToo
  dsimp only at kept keptToo
  split at kept
  · cases kept
  split at keptToo
  · cases keptToo
  cases kept
  cases keptToo
  exact less

theorem map_snd_statements (lines : List Line) :
    (statements lines).map Prod.snd =
      (lines.map trim).filter fun text => !(text = [] || isComment text) := by
  have along (texts : List Line) (start : Nat) :
      ((texts.zipIdx start).filterMap fun pair =>
          if pair.1 = [] || isComment pair.1 then none else some (pair.2, pair.1)).map Prod.snd =
        texts.filter fun text => !(text = [] || isComment text) := by
    induction texts generalizing start with
    | nil => rfl
    | cons text texts ih =>
      rw [List.zipIdx_cons, List.filterMap_cons, List.filter_cons, ← ih (start + 1)]
      cases (text = [] || isComment text : Bool) <;> simp
  exact along (lines.map trim) 1

/-- The same lines in another order make the same statements in another order. -/
theorem perm_statements (same : lines.Perm others) :
    ((statements lines).map Prod.snd).Perm ((statements others).map Prod.snd) := by
  rw [map_snd_statements, map_snd_statements]
  exact (same.map trim).filter _

/-- A test for a form finds out whether some statement has it. -/
theorem any_statements {test : Line → Bool} {form : Line → Prop}
    (decides : ∀ statement, test statement = true ↔ form statement) :
    ((statements lines).map Prod.snd).any test = true ↔ HasStatement lines form := by
  simp only [HasStatement, List.any_map, List.any_eq_true, Prod.exists, mem_statements,
    Function.comp_apply, decides]

end

/-- A trap set by the `trap` command. -/
def SetsListTrap (statement : Line) : Prop :=
  ∃ action, action ≠ [] ∧ statement = "trap ".toList ++ action

/-- A trap set by defining a function named after a signal. -/
def SetsFunctionTrap (statement : Line) : Prop :=
  ∃ signal body, signal ≠ [] ∧ body ≠ [] ∧
    statement = "TRAP".toList ++ signal ++ "()".toList ++ body

def SetsTrap (statement : Line) : Prop := SetsListTrap statement ∨ SetsFunctionTrap statement

/-- A statement that puts another program in the place of the shell. -/
def ReplacesShell (statement : Line) : Prop :=
  ∃ command, command ≠ [] ∧ statement = "exec ".toList ++ command

def Unblank (word : Line) : Prop := ∀ c ∈ word, isBlank c = false

/-- A `set` command with the letter `E` in a cluster of flags right behind it, or with a cluster that
ends with `o` and the word `errtrace` at its very end. -/
def SetsErrtrace (statement : Line) : Prop :=
  ∃ flags, statement = "set ".toList ++ flags ∧
    ((∃ letters rest, Unblank letters ∧ flags = '-' :: letters ++ 'E' :: rest) ∨
      ∃ front letters, Unblank letters ∧ flags = front ++ '-' :: letters ++ "o errtrace".toList)

section

variable {word : String} {line rest : Line}

theorem after?_eq_some_iff : after? word line = some rest ↔ line = word.toList ++ rest := by
  unfold after?
  by_cases begins : word.toList.isPrefixOf line = true
  · obtain ⟨tail, rfl⟩ := List.isPrefixOf_iff_prefix.mp begins
    rw [if_pos begins, List.drop_left, Option.some.injEq, List.append_cancel_left_eq]
  · rw [if_neg begins]
    refine ⟨nofun, ?_⟩
    rintro rfl
    exact absurd (List.isPrefixOf_iff_prefix.mpr (List.prefix_append ..)) begins

/-- A word at the front with something behind it. -/
theorem isSome_after?_iff :
    ((after? word line).map (!·.isEmpty)).getD false = true ↔
      ∃ rest, rest ≠ [] ∧ line = word.toList ++ rest := by
  constructor
  · cases found : after? word line with
    | none => exact nofun
    | some rest =>
      intro more
      refine ⟨rest, ?_, after?_eq_some_iff.mp found⟩
      rintro rfl
      cases more
  · rintro ⟨rest, more, behind⟩
    rw [after?_eq_some_iff.mpr behind, Option.map_some, Option.getD_some, Bool.not_eq_true',
      List.isEmpty_eq_false_iff]
    exact more

theorem isListTrap_iff : isListTrap line = true ↔ SetsListTrap line := isSome_after?_iff

theorem isExec_iff : isExec line = true ↔ ReplacesShell line := isSome_after?_iff

theorem holdsCall_iff :
    holdsCall line = true ↔ ∃ front body, body ≠ [] ∧ line = front ++ "()".toList ++ body := by
  constructor
  · intro holds
    induction line with
    | nil => cases holds
    | cons c line ih =>
      unfold holdsCall at holds
      split at holds
      · next first body here =>
        cases here
        exact ⟨[], first :: body, List.cons_ne_nil _ _, rfl⟩
      · next _ other here =>
        cases here
        obtain ⟨front, body, more, rfl⟩ := ih holds
        exact ⟨c :: front, body, more, rfl⟩
      · cases holds
  · rintro ⟨front, body, more, rfl⟩
    induction front with
    | nil =>
      obtain ⟨first, body, rfl⟩ := List.exists_cons_of_ne_nil more
      rfl
    | cons c front ih =>
      rw [List.cons_append, List.cons_append]
      unfold holdsCall
      split
      · rfl
      · next _ other here =>
        cases here
        exact ih
      · next here => cases here

theorem isFunctionTrap_iff : isFunctionTrap line = true ↔ SetsFunctionTrap line := by
  unfold isFunctionTrap
  constructor
  · intro sets
    split at sets
    · next first rest found =>
      obtain ⟨front, body, more, rfl⟩ := holdsCall_iff.mp sets
      refine ⟨first :: front, body, List.cons_ne_nil _ _, more, ?_⟩
      rw [after?_eq_some_iff.mp found]
      simp
    · cases sets
  · rintro ⟨signal, body, named, more, behind⟩
    obtain ⟨first, front, rfl⟩ := List.exists_cons_of_ne_nil named
    have found : after? "TRAP" line = some (first :: (front ++ "()".toList ++ body)) := by
      rw [after?_eq_some_iff, behind]
      simp
    rw [found]
    exact holdsCall_iff.mpr ⟨front, body, more, rfl⟩

/-- What stands in the first run of characters of some sort. -/
theorem contains_takeWhile_iff {p : Char → Bool} {c : Char} (kept : p c = true) {cs : List Char} :
    (cs.takeWhile p).contains c = true ↔
      ∃ front back, (∀ x ∈ front, p x = true) ∧ cs = front ++ c :: back := by
  rw [List.contains_iff_mem]
  constructor
  · intro member
    obtain ⟨front, back, parts⟩ := List.mem_iff_append.mp member
    refine ⟨front, back ++ cs.dropWhile p, fun x inside => ?_, ?_⟩
    · refine List.mem_takeWhile_imp (l := cs) ?_
      rw [parts]
      exact List.mem_append_left _ inside
    · rw [← List.cons_append, ← List.append_assoc, ← parts, List.takeWhile_append_dropWhile]
  · rintro ⟨front, back, run, rfl⟩
    rw [List.takeWhile_append_of_pos run, List.takeWhile_cons_of_pos kept]
    exact List.mem_append_right _ List.mem_cons_self

theorem startsWithErrtraceFlag_iff : startsWithErrtraceFlag line = true ↔
    ∃ letters rest, Unblank letters ∧ line = '-' :: letters ++ 'E' :: rest := by
  have visible : (!isBlank 'E') = true := by decide
  unfold startsWithErrtraceFlag
  constructor
  · intro starts
    split at starts
    · next rest =>
      obtain ⟨letters, back, run, rfl⟩ := (contains_takeWhile_iff visible).mp starts
      exact ⟨letters, back, by simpa [Unblank] using run, rfl⟩
    · cases starts
  · rintro ⟨letters, back, run, rfl⟩
    exact (contains_takeWhile_iff visible).mpr ⟨letters, back, by simpa [Unblank] using run, rfl⟩

theorem beforeEnd?_eq_some_iff :
    beforeEnd? word line = some rest ↔ line = rest.reverse ++ word.toList := by
  unfold beforeEnd?
  dsimp only
  by_cases ends : word.toList.reverse.isPrefixOf line.reverse = true
  · obtain ⟨tail, parts⟩ := List.isPrefixOf_iff_prefix.mp ends
    have whole : line = tail.reverse ++ word.toList := by
      rw [← List.reverse_inj, ← parts]
      simp
    rw [if_pos ends, ← parts, List.drop_left, Option.some.injEq, whole,
      List.append_cancel_right_eq, List.reverse_inj]
  · rw [if_neg ends]
    refine ⟨nofun, ?_⟩
    rintro rfl
    exact absurd (List.isPrefixOf_iff_prefix.mpr (by simp)) ends

theorem endsWithErrtraceWord_iff : endsWithErrtraceWord line = true ↔
    ∃ front letters, Unblank letters ∧
      line = front ++ '-' :: letters ++ "o errtrace".toList := by
  have visible : (!isBlank '-') = true := by decide
  have word : "o errtrace".toList = 'o' :: " errtrace".toList := rfl
  unfold endsWithErrtraceWord
  constructor
  · intro ends
    split at ends
    · next before found =>
      obtain ⟨letters, back, run, rfl⟩ := (contains_takeWhile_iff visible).mp ends
      refine ⟨back.reverse, letters.reverse, by simpa [Unblank] using run, ?_⟩
      rw [beforeEnd?_eq_some_iff.mp found, word]
      simp
    · cases ends
  · rintro ⟨front, letters, run, rfl⟩
    have found : beforeEnd? " errtrace" (front ++ '-' :: letters ++ "o errtrace".toList) =
        some ('o' :: (letters.reverse ++ '-' :: front.reverse)) := by
      rw [beforeEnd?_eq_some_iff, word]
      simp
    rw [found]
    exact (contains_takeWhile_iff visible).mpr
      ⟨letters.reverse, front.reverse, by simpa [Unblank] using run, rfl⟩

theorem setsErrtrace_iff : setsErrtrace line = true ↔ SetsErrtrace line := by
  unfold setsErrtrace SetsErrtrace
  cases found : after? "set " line with
  | none =>
    refine ⟨nofun, ?_⟩
    rintro ⟨flags, behind, _⟩
    rw [after?_eq_some_iff.mpr behind] at found
    cases found
  | some flags =>
    have behind := after?_eq_some_iff.mp found
    dsimp only
    rw [Bool.or_eq_true, startsWithErrtraceFlag_iff, endsWithErrtraceWord_iff]
    constructor
    · exact fun flagged => ⟨flags, behind, flagged⟩
    · rintro ⟨others, again, flagged⟩
      rwa [← List.append_cancel_left (behind.symm.trans again)] at flagged

end

theorem setsTrap_iff {lines : List Line} :
    setsTrap ((statements lines).map Prod.snd) = true ↔ HasStatement lines SetsTrap := by
  refine any_statements fun statement => ?_
  rw [Bool.or_eq_true, isListTrap_iff, isFunctionTrap_iff, SetsTrap]

end ShellSurvey
