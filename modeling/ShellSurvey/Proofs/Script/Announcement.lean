import ShellSurvey.Script.FirstLine
import ShellSurvey.Script.Shebang

namespace ShellSurvey

theorem dropWhileEnd_cons {α : Type} {p : α → Bool} {x : α} (kept : p x = false) (xs : List α) :
    dropWhileEnd p (x :: xs) = x :: dropWhileEnd p xs := by
  have reversed : (xs.reverse ++ [x]).dropWhile p = xs.reverse.dropWhile p ++ [x] := by
    induction xs.reverse with
    | nil => simp [kept]
    | cons y ys ih =>
      simp only [List.cons_append, List.dropWhile_cons]
      split
      · exact ih
      · rfl
  rw [dropWhileEnd, List.reverse_cons, reversed, List.reverse_append]
  rfl

/-- A visible sign of ASCII at the start of a line is the first character of its text. -/
theorem lineText_cons {sign : UInt8} (ascii : sign < 0x80) (visible : 0x20 < sign) (line : Bytes) :
    (lineText (sign :: line)).toList = Char.ofNat sign.toNat :: (lineText line).toList := by
  have kept : (sign = lineFeed || sign = carriageReturn) = false := by
    have large : 0x20 < sign.toNat := visible
    simp only [Bool.or_eq_false_iff, decide_eq_false_iff_not]
    constructor <;> rintro rfl <;> exact absurd large (by decide)
  rw [lineText, dropWhileEnd_cons (p := fun b => b = lineFeed || b = carriageReturn) kept,
    String.toList_ofList, lineText, String.toList_ofList, decodeLossy_cons, pieceAt, if_pos ascii]
  rfl

theorem lineText_shebang (line : Bytes) :
    (lineText (0x23 :: 0x21 :: line)).toList = '#' :: '!' :: (lineText line).toList := by
  rw [lineText_cons (by decide) (by decide), lineText_cons (by decide) (by decide)]
  rfl

theorem lineText_flipped (line : Bytes) :
    (lineText (0x21 :: 0x23 :: line)).toList = '!' :: '#' :: (lineText line).toList := by
  rw [lineText_cons (by decide) (by decide), lineText_cons (by decide) (by decide)]
  rfl

/-- A line announces something exactly if it starts with two signs. -/
theorem Announcement.ofLine_cases (line : Bytes) :
    (∃ rest, line = 0x23 :: 0x21 :: rest ∧ ofLine line = .proper (lineText line)) ∨
    (∃ rest, line = 0x21 :: 0x23 :: rest ∧ ofLine line = .flipped (lineText line)) ∨
    (ofLine line = .missing ∧ ¬ [0x23, 0x21] <+: line) := by
  unfold ofLine
  split
  · exact Or.inl ⟨_, rfl, rfl⟩
  · exact Or.inr (Or.inl ⟨_, rfl, rfl⟩)
  · next noShebang _ =>
    refine Or.inr (Or.inr ⟨rfl, ?_⟩)
    rintro ⟨rest, rfl⟩
    exact noShebang rest rfl

theorem Announcement.ofLine_shebang {line : Bytes} (shebang : [0x23, 0x21] <+: line) :
    ofLine line = .proper (lineText line) := by
  obtain ⟨rest, rfl⟩ := shebang
  rfl

theorem Announcement.parseable_ofLine {line : Bytes} (noShebang : ¬ [0x23, 0x21] <+: line) :
    (ofLine line).parseable = false := by
  rcases ofLine_cases line with ⟨rest, rfl, _⟩ | ⟨rest, _, flipped⟩ | ⟨missing, _⟩
  · exact absurd ⟨rest, rfl⟩ noShebang
  · rw [flipped]; rfl
  · rw [missing]; rfl

theorem lineText_starts {line : Bytes} (shebang : [0x23, 0x21] <+: line) :
    ['#', '!'] <+: (lineText line).toList := by
  obtain ⟨rest, rfl⟩ := shebang
  exact ⟨(lineText rest).toList, (lineText_shebang rest).symm⟩

/-- What a line that is not read announces is nothing or starts with the flipped signs. -/
theorem Announcement.text_flipped {line : Bytes} (noShebang : ¬ [0x23, 0x21] <+: line)
    (announced : (Announcement.ofLine line).text ≠ "") :
    ['!', '#'] <+: (Announcement.ofLine line).text.toList := by
  rcases ofLine_cases line with ⟨rest, rfl, _⟩ | ⟨rest, rfl, flipped⟩ | ⟨missing, _⟩
  · exact absurd ⟨rest, rfl⟩ noShebang
  · rw [flipped]
    exact ⟨(lineText rest).toList, (lineText_flipped rest).symm⟩
  · rw [missing] at announced
    exact absurd rfl announced

/-- A line that starts with the signs of a shebang has a command. -/
theorem shebangCommand?_lineText {line : Bytes} (shebang : [0x23, 0x21] <+: line) :
    ∃ words, shebangCommand? (lineText line) = some words := by
  obtain ⟨rest, rfl⟩ := shebang
  refine ⟨dropLauncher (commandWords (trim (lineText rest).toList)), ?_⟩
  rw [shebangCommand?, List.cons_append, List.cons_append, List.nil_append, lineText_shebang]
  rfl

theorem Shebang.parse?_lineText (lexicon : Lexicon) (fallback : Option String) {line : Bytes}
    (shebang : [0x23, 0x21] <+: line) :
    ∃ read, Shebang.parse? lexicon fallback (lineText line) = some read := by
  obtain ⟨words, command⟩ := shebangCommand?_lineText shebang
  rw [parse?, command]
  exact ⟨_, rfl⟩

end ShellSurvey
