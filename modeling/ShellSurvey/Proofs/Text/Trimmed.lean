import Mathlib.Data.List.TakeWhile
import ShellSurvey.Proofs.Script.Announcement
import ShellSurvey.Text.Blank

namespace ShellSurvey

theorem dropWhileEnd_append {α : Type} (p : α → Bool) (front back : List α) :
    dropWhileEnd p (front ++ back) =
      if dropWhileEnd p back = [] then dropWhileEnd p front else front ++ dropWhileEnd p back := by
  simp only [dropWhileEnd, List.reverse_append, List.dropWhile_append, List.isEmpty_iff,
    List.reverse_eq_nil_iff]
  split
  · rfl
  · rw [List.reverse_append, List.reverse_reverse]

theorem dropWhileEnd_append_cons {α : Type} {p : α → Bool} {x : α} (kept : p x = false)
    (front back : List α) :
    dropWhileEnd p (front ++ x :: back) = front ++ x :: dropWhileEnd p back := by
  rw [dropWhileEnd_append, dropWhileEnd_cons kept, if_neg (List.cons_ne_nil _ _)]

/-- Up to a character that is not in the front of a text, the whole front is taken. -/
theorem takeWhile_ne_append {c : Char} {front : List Char} (free : c ∉ front) (back : List Char) :
    (front ++ back).takeWhile (· ≠ c) = front ++ back.takeWhile (· ≠ c) :=
  List.takeWhile_append_of_pos fun _ member => decide_eq_true fun same => free (same ▸ member)

section

variable {c : Char} {indent : List Char}

theorem not_mem_of_blank (blank : ∀ d ∈ indent, isBlank d = true) (visible : isBlank c = false) :
    c ∉ indent := fun member =>
  Bool.false_ne_true (visible.symm.trans (blank c member))

theorem trimEnd_append_cons (visible : isBlank c = false) (front back : List Char) :
    trimEnd (front ++ c :: back) = front ++ c :: trimEnd back :=
  dropWhileEnd_append_cons visible front back

theorem trimEnd_append_visible {word : List Char} (visible : ∀ c ∈ word, isBlank c = false)
    (nonempty : word ≠ []) (back : List Char) : trimEnd (word ++ back) = word ++ trimEnd back := by
  obtain ⟨front, c, rfl⟩ := List.eq_nil_or_concat word |>.resolve_left nonempty
  rw [List.concat_eq_append, List.append_assoc, List.append_assoc, List.singleton_append,
    trimEnd_append_cons (visible c (by simp))]
  rfl

/-- What is trimmed off at the end is blank. -/
theorem trimEnd_append_blanks (cs : List Char) :
    ∃ blanks, (∀ d ∈ blanks, isBlank d = true) ∧ trimEnd cs ++ blanks = cs := by
  refine ⟨(cs.reverse.takeWhile isBlank).reverse, fun d member => ?_, ?_⟩
  · exact List.mem_takeWhile_imp (List.mem_reverse.mp member)
  · rw [trimEnd, dropWhileEnd, ← List.reverse_append, List.takeWhile_append_dropWhile,
      List.reverse_reverse]

theorem trimEnd_begins (cs : List Char) : trimEnd cs <+: cs := by
  obtain ⟨blanks, _, parts⟩ := trimEnd_append_blanks cs
  exact ⟨blanks, parts⟩

theorem trimEnd_eq_nil_iff {cs : List Char} : trimEnd cs = [] ↔ ∀ d ∈ cs, isBlank d = true := by
  rw [trimEnd, dropWhileEnd, List.reverse_eq_nil_iff, List.dropWhile_eq_nil_iff]
  exact forall_congr' fun d => by rw [List.mem_reverse]

/-- Blanks at the end do not keep what is taken from the front from being blank. -/
theorem blank_takeWhile_trimEnd {p : Char → Bool} {cs : List Char} :
    (∀ d ∈ (trimEnd cs).takeWhile p, isBlank d = true) ↔
      ∀ d ∈ cs.takeWhile p, isBlank d = true := by
  obtain ⟨blanks, blank, parts⟩ := trimEnd_append_blanks cs
  have whole : cs.takeWhile p = (trimEnd cs ++ blanks).takeWhile p := by rw [parts]
  rw [whole, List.takeWhile_append]
  -- What is taken stops before the blanks at the end, or goes on into them.
  split
  · next all =>
    have kept := (List.takeWhile_prefix p).eq_of_length all
    rw [kept, List.forall_mem_append]
    exact (and_iff_left fun d member =>
      blank d (List.takeWhile_prefix p |>.subset member)).symm
  · exact Iff.rfl

theorem trim_blank (blank : ∀ d ∈ indent, isBlank d = true) : trim indent = [] := by
  rw [trim, trimStart, List.dropWhile_eq_nil_iff.mpr blank]
  rfl

variable (blank : ∀ d ∈ indent, isBlank d = true) (visible : isBlank c = false)
include blank visible

theorem dropWhile_indented (rest : List Char) :
    (indent ++ c :: rest).dropWhile isBlank = c :: rest := by
  rw [List.dropWhile_append_of_pos blank, List.dropWhile_cons_of_neg (by simp [visible])]

theorem trim_indented (rest : List Char) : trim (indent ++ c :: rest) = c :: trimEnd rest := by
  rw [trim, trimStart, dropWhile_indented blank visible]
  exact trimEnd_append_cons visible [] rest

end

end ShellSurvey
