import Mathlib.Data.List.Basic
import ShellSurvey.Text.Lines

namespace ShellSurvey

/-- A line between what comes before it and what comes after it in a text: it holds no break, and it
goes on to the breaks on both sides or to the ends of the text. -/
structure LineIn (text before line after : List Char) : Prop where
  parts : text = before ++ line ++ after
  unbroken : ∀ c ∈ line, isLineBreak c = false
  opened : ∀ c ∈ before.getLast?, isLineBreak c = true
  closed : ∀ c ∈ after.head?, isLineBreak c = true

section

variable {c : Char} {text before line after : List Char}

theorem splitLines_cons (noReturn : c ≠ '\r') :
    splitLines (c :: text) =
      if isLineBreak c then [] :: splitLines text else consFirst c (splitLines text) := by
  have alone : ¬ (c = '\r' ∧
      (text.foldr (LineScan.step isLineBreak) ⟨none, []⟩).next = some '\n') :=
    fun both => noReturn both.1
  rw [splitLines, linesBy, List.foldr_cons, LineScan.step, if_neg alone]
  rfl

theorem splitLines_eq_nil (noReturn : '\r' ∉ text) (none : splitLines text = []) : text = [] := by
  cases text with
  | nil => rfl
  | cons c text =>
    rw [splitLines_cons (Ne.symm (List.ne_of_not_mem_cons noReturn))] at none
    split at none
    · cases none
    · cases lines : splitLines text <;> rw [lines] at none <;> cases none

/-- A text without a break is a line. -/
theorem LineIn.whole (unbroken : ∀ c ∈ text, isLineBreak c = false) : LineIn text [] text [] where
  parts := (List.append_nil text).symm
  unbroken := unbroken
  opened := by
    intro c ending
    cases ending
  closed := by
    intro c beginning
    cases beginning

/-- A text that starts with a break starts with an empty line. -/
theorem LineIn.first_empty (broken : isLineBreak c = true) : LineIn (c :: text) [] [] (c :: text) where
  parts := rfl
  unbroken := List.forall_mem_nil _
  opened := by
    intro c ending
    cases ending
  closed := by
    rintro _ ⟨⟩
    exact broken

/-- A character that is no break goes to the front of the first line. -/
theorem LineIn.cons_first (place : LineIn text [] line after) (kept : isLineBreak c = false) :
    LineIn (c :: text) [] (c :: line) after where
  parts := by rw [place.parts]; rfl
  unbroken := List.forall_mem_cons.mpr ⟨kept, place.unbroken⟩
  opened := place.opened
  closed := place.closed

/-- Lines behind the first one stay as they are, and so does the first one behind a break. -/
theorem LineIn.cons_before (place : LineIn text before line after)
    (ends : before = [] → isLineBreak c = true) : LineIn (c :: text) (c :: before) line after where
  parts := by rw [place.parts]; rfl
  unbroken := place.unbroken
  opened := by
    intro last ending
    cases before with
    | nil =>
      cases ending
      exact ends rfl
    | cons first rest =>
      rw [List.getLast?_cons_cons] at ending
      exact place.opened last ending
  closed := place.closed

/-- Before any other line than the first one comes a break. -/
theorem LineIn.before_eq_nil (place : LineIn text before line after)
    (first : before.countP isLineBreak = 0) : before = [] := by
  cases ending : before.getLast? with
  | none => exact List.getLast?_eq_none_iff.mp ending
  | some c =>
    have broken := place.opened c ending
    exact absurd broken (List.countP_eq_zero.mp first c (List.mem_of_getLast? ending))

end

/-- Each line of a list has its place in a text, behind as many breaks as there are lines before it. -/
def PlacedIn (text : List Char) (lines : List (List Char)) : Prop :=
  ∀ index line, lines[index]? = some line →
    ∃ before after, LineIn text before line after ∧ before.countP isLineBreak = index

section

variable {c : Char} {text : List Char} {lines : List (List Char)} (placed : PlacedIn text lines)
include placed

theorem PlacedIn.cons_break (broken : isLineBreak c = true) : PlacedIn (c :: text) ([] :: lines) := by
  intro index line there
  cases index with
  | zero =>
    cases there
    exact ⟨[], _, .first_empty broken, rfl⟩
  | succ index =>
    obtain ⟨before, after, place, count⟩ := placed index line there
    refine ⟨c :: before, after, place.cons_before fun _ => broken, ?_⟩
    rw [List.countP_cons_of_pos broken, count]

theorem PlacedIn.consFirst (kept : isLineBreak c = false) (whole : lines = [] → text = []) :
    PlacedIn (c :: text) (consFirst c lines) := by
  intro index line there
  cases lines with
  | nil =>
    rw [ShellSurvey.consFirst, List.getElem?_singleton] at there
    split at there <;> cases there
    next first =>
    subst first
    rw [whole rfl]
    exact ⟨[], [], .whole (List.forall_mem_singleton.mpr kept), rfl⟩
  | cons first rest =>
    cases index with
    | zero =>
      cases there
      obtain ⟨before, after, place, count⟩ := placed 0 first rfl
      have start := place.before_eq_nil count
      subst start
      exact ⟨[], after, place.cons_first kept, rfl⟩
    | succ index =>
      obtain ⟨before, after, place, count⟩ := placed (index + 1) line there
      have behind : before ≠ [] := by
        rintro rfl
        cases count
      refine ⟨c :: before, after, place.cons_before fun start => absurd start behind, ?_⟩
      rw [List.countP_cons_of_neg (Bool.eq_false_iff.mp kept), count]

end

theorem splitLines_placedIn {text : List Char} (noReturn : '\r' ∉ text) :
    PlacedIn text (splitLines text) := by
  induction text with
  | nil => exact nofun
  | cons c text ih =>
    obtain ⟨here, later⟩ := List.ne_and_not_mem_of_not_mem_cons noReturn
    rw [splitLines_cons (Ne.symm here)]
    cases broken : isLineBreak c with
    | true => exact (ih later).cons_break broken
    | false => exact (ih later).consFirst broken (splitLines_eq_nil later)

end ShellSurvey
