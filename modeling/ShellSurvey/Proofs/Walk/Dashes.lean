import ShellSurvey.Proofs.Walk.Names

namespace ShellSurvey

/-- A text that passes for an option. -/
def Dashed (text : String) : Prop := text.toList.head? = some '-'

instance (text : String) : Decidable (Dashed text) := inferInstanceAs (Decidable (_ = _))

/-- The first name of a relative path is what its text begins with. -/
theorem Path.dashed_text_iff (path : Path) :
    Dashed path.text ↔ path.slashes = 0 ∧ ∃ name ∈ path.parts.head?, Dashed name := by
  obtain ⟨slashes, parts⟩ := path
  cases slashes with
  | succ count => simp [Dashed, text, List.replicate_succ]
  | zero =>
    cases parts with
    | nil => simp [Dashed, text]
    | cons first more =>
      have begins : (joinWith ['/'] ((first :: more).map String.toList)).head? = some '-' ↔
          first.toList.head? = some '-' := by
        cases letters : first.toList with
        | nil => cases more <;> simp [joinWith, letters]
        | cons c rest => cases more <;> simp [joinWith, letters]
      unfold Dashed
      rw [toList_text, List.replicate_zero, List.nil_append, begins]
      simp

/-- What lies below a root begins with the root's own name, unless the root is the current directory. -/
theorem Path.dashed_descend_iff (root : Path) (names : List String) :
    Dashed (root.descend names).text ↔
      Dashed root.text ∨ root = .here ∧ ∃ name ∈ names.head?, Dashed name := by
  rw [dashed_text_iff, dashed_text_iff, parts_descend]
  obtain ⟨slashes, parts⟩ := root
  cases parts with
  | nil => simp [descend, here]
  | cons first more => simp [descend, here]

theorem Path.slashes_ofText {root : String} {rest : List Char} (absolute : root.toList = '/' :: rest) :
    (ofText root).slashes ≠ 0 := by
  unfold ofText
  rw [absolute, List.takeWhile_cons_of_pos (by decide), List.length_cons]
  dsimp only
  split
  · omega
  · decide
  · decide

/-- The first name of a relative root is what it begins with, unless that is a dot and a slash. -/
theorem dashed_of_ofText {root : String} (dashed : Dashed (Path.ofText root).text) :
    Dashed root ∨ ['.', '/'] <+: root.toList := by
  obtain ⟨relative, first, member, begins⟩ := (Path.ofText root).dashed_text_iff.mp dashed
  obtain ⟨piece, more, cut⟩ := List.exists_cons_of_ne_nil (splitAt_ne_nil '/' root.toList)
  have whole := joinWith_splitAt '/' root.toList
  simp only [Path.ofText, pathNames] at member
  rw [cut] at member whole
  by_cases empty : piece = []
  · subst empty
    cases more with
    | nil => simp at member
    | cons next more => exact absurd relative (Path.slashes_ofText whole.symm)
  by_cases dot : piece = ['.']
  · subst dot
    cases more with
    | nil => simp at member
    | cons next more => exact Or.inr ⟨_, whole⟩
  · have named : String.ofList piece ≠ "" ∧ String.ofList piece ≠ "." := by
      refine ⟨fun same => empty ?_, fun same => dot ?_⟩
      · rw [← String.toList_ofList (l := piece), same]
        rfl
      · rw [← String.toList_ofList (l := piece), same]
        rfl
    rw [List.map_cons, List.filter_cons, if_pos (decide_eq_true named), List.head?_cons] at member
    cases member
    rw [Dashed, String.toList_ofList] at begins
    obtain ⟨c, rest, rfl⟩ := List.exists_cons_of_ne_nil empty
    refine Or.inl ?_
    rw [Dashed, ← whole, ← begins]
    cases more <;> simp [joinWith]

end ShellSurvey
