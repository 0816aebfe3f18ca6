namespace ShellSurvey

/-- Puts a character in front of the first piece. -/
def consFirst {α : Type} (x : α) : List (List α) → List (List α)
  | [] => [[x]]
  | piece :: pieces => (x :: piece) :: pieces

/-- The pieces of a list between the occurrences of `separator`, empty ones included. -/
def splitAt {α : Type} [DecidableEq α] (separator : α) (xs : List α) : List (List α) :=
  xs.foldr (fun x pieces => if x = separator then [] :: pieces else consFirst x pieces) [[]]

/-- The pieces with `separator` between neighbours. -/
def joinWith {α : Type} (separator : List α) : List (List α) → List α
  | [] => []
  | [piece] => piece
  | piece :: pieces => piece ++ separator ++ joinWith separator pieces

theorem joinWith_sublist {α : Type} (separator : List α) {pieces others : List (List α)}
    (fewer : pieces.Sublist others) :
    (joinWith separator pieces).Sublist (joinWith separator others) := by
  induction fewer with
  | slnil => exact List.Sublist.refl _
  | @cons pieces others piece fewer ih =>
    cases others with
    | nil => rw [List.eq_nil_of_sublist_nil fewer]; exact List.nil_sublist _
    | cons next others => exact ih.trans (List.sublist_append_right _ _)
  | @cons_cons pieces others piece fewer ih =>
    cases pieces with
    | nil =>
      cases others with
      | nil => exact List.Sublist.refl _
      | cons next others =>
        rw [joinWith, joinWith, List.append_assoc]
        · exact List.sublist_append_left _ _
        · exact List.cons_ne_nil _ _
    | cons first pieces =>
      cases others with
      | nil => cases fewer
      | cons next others => exact (List.Sublist.refl _).append ih

theorem joinWith_cons {α : Type} (separator piece : List α) {pieces : List (List α)}
    (more : pieces ≠ []) :
    joinWith separator (piece :: pieces) = piece ++ separator ++ joinWith separator pieces := by
  obtain ⟨next, rest, rfl⟩ := List.exists_cons_of_ne_nil more
  rfl

theorem joinWith_append {α : Type} (separator : List α) {front back : List (List α)}
    (some : front ≠ []) (more : back ≠ []) :
    joinWith separator (front ++ back) =
      joinWith separator front ++ separator ++ joinWith separator back := by
  induction front with
  | nil => exact absurd rfl some
  | cons piece front ih =>
    rw [List.cons_append]
    cases front with
    | nil => exact joinWith_cons separator piece more
    | cons next front =>
      rw [joinWith_cons separator piece (by simp), joinWith_cons separator piece (List.cons_ne_nil _ _),
        ih (List.cons_ne_nil _ _)]
      simp only [List.append_assoc]

variable {α : Type} [DecidableEq α]

@[simp] theorem splitAt_nil (separator : α) : splitAt separator [] = [[]] := rfl

theorem splitAt_cons (separator x : α) (xs : List α) :
    splitAt separator (x :: xs) =
      if x = separator then [] :: splitAt separator xs else consFirst x (splitAt separator xs) := rfl

theorem splitAt_ne_nil (separator : α) (xs : List α) : splitAt separator xs ≠ [] := by
  cases xs with
  | nil => simp
  | cons x xs =>
    rw [splitAt_cons]
    split
    · simp
    · cases splitAt separator xs <;> simp [consFirst]

theorem joinWith_splitAt (separator : α) (xs : List α) :
    joinWith [separator] (splitAt separator xs) = xs := by
  induction xs with
  | nil => rfl
  | cons x xs ih =>
    rw [splitAt_cons]
    have nonempty := splitAt_ne_nil separator xs
    cases pieces : splitAt separator xs with
    | nil => exact absurd pieces nonempty
    | cons piece rest =>
      rw [pieces] at ih
      split
      · next same => simp [joinWith, ih, same]
      · cases rest with
        | nil => simpa [consFirst, joinWith] using ih
        | cons next rest => simpa [consFirst, joinWith] using ih

theorem splitAt_append_cons {separator : α} {piece : List α} (free : separator ∉ piece)
    (rest : List α) :
    splitAt separator (piece ++ separator :: rest) = piece :: splitAt separator rest := by
  induction piece with
  | nil => rw [List.nil_append, splitAt_cons, if_pos rfl]
  | cons x piece ih =>
    simp only [List.mem_cons, not_or] at free
    rw [List.cons_append, splitAt_cons, if_neg (Ne.symm free.1), ih free.2, consFirst]

theorem splitAt_of_not_mem {separator : α} {piece : List α} (free : separator ∉ piece) :
    splitAt separator piece = [piece] := by
  induction piece with
  | nil => rfl
  | cons x piece ih =>
    simp only [List.mem_cons, not_or] at free
    rw [splitAt_cons, if_neg (Ne.symm free.1), ih free.2, consFirst]

theorem splitAt_append_separator (separator : α) (front back : List α) :
    splitAt separator (front ++ separator :: back) =
      splitAt separator front ++ splitAt separator back := by
  induction front with
  | nil => rw [List.nil_append, splitAt_cons, if_pos rfl]; rfl
  | cons x front ih =>
    rw [List.cons_append, splitAt_cons, splitAt_cons, ih]
    split
    · rfl
    · cases pieces : splitAt separator front with
      | nil => exact absurd pieces (splitAt_ne_nil separator front)
      | cons piece rest => rfl

/-- Cutting where pieces were joined gives the pieces, if the separator is in none of them. -/
theorem splitAt_joinWith {separator : α} {pieces : List (List α)} (nonempty : pieces ≠ [])
    (free : ∀ piece ∈ pieces, separator ∉ piece) :
    splitAt separator (joinWith [separator] pieces) = pieces := by
  induction pieces with
  | nil => exact absurd rfl nonempty
  | cons piece pieces ih =>
    have here := free piece List.mem_cons_self
    cases pieces with
    | nil => exact splitAt_of_not_mem here
    | cons next pieces =>
      have later := ih (List.cons_ne_nil _ _) fun piece member =>
        free piece (List.mem_cons_of_mem _ member)
      rw [joinWith, List.append_assoc, List.singleton_append, splitAt_append_cons here, later]
      exact List.cons_ne_nil _ _

theorem not_mem_of_mem_splitAt {separator : α} {xs piece : List α}
    (member : piece ∈ splitAt separator xs) : separator ∉ piece := by
  induction xs generalizing piece with
  | nil =>
    rw [splitAt_nil, List.mem_singleton] at member
    simp [member]
  | cons x xs ih =>
    rw [splitAt_cons] at member
    split at member
    · rcases List.mem_cons.mp member with rfl | later
      · exact List.not_mem_nil
      · exact ih later
    · next different =>
      cases pieces : splitAt separator xs with
      | nil => exact absurd pieces (splitAt_ne_nil separator xs)
      | cons first rest =>
        rw [pieces, consFirst] at member
        rcases List.mem_cons.mp member with rfl | later
        · rw [List.mem_cons, not_or]
          exact ⟨Ne.symm different, ih (pieces ▸ List.mem_cons_self)⟩
        · exact ih (pieces ▸ List.mem_cons_of_mem _ later)

/-- Texts joined by a separator text. -/
def joinTexts (separator : String) (texts : List String) : String :=
  .ofList (joinWith separator.toList (texts.map String.toList))

end ShellSurvey
