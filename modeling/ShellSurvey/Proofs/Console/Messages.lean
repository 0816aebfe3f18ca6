import ShellSurvey.Console

namespace ShellSurvey

/-- The lines of an output, without what stands behind the last line feed. -/
def outputLines (out : List Char) : List (List Char) := (splitAt '\n' out).dropLast

/-- A line that a message starts with. -/
def isHeading (line : List Char) : Bool := line.head? == some '['

/-- How far the lines of a message are set in. -/
def margin : Nat := 4

/-- Lines cut in front of every heading. The first piece is what precedes all of them. -/
def cutAtHeadings (lines : List (List Char)) : List (List (List Char)) :=
  lines.foldr
    (fun line pieces =>
      if isHeading line then [] :: consFirst line pieces else consFirst line pieces) [[]]

/-- What a message said, given its lines. -/
def blockText (block : List (List Char)) : List Char := joinWith ['\n'] (block.map (·.drop margin))

/-- The lines of a message without colours. -/
def messageLines (severity : Severity) (message : List Char) : List (List Char) :=
  match splitAt '\n' message with
  | [] => []
  | first :: rest =>
    (severity.bracket false ++ ' ' :: first) :: rest.map fun line => indentation ++ ' ' :: line

theorem messageText_eq (severity : Severity) (message : List Char) :
    messageText severity false message =
      (messageLines severity message).flatMap (· ++ ['\n']) := by
  unfold messageText messageLines
  cases splitAt '\n' message with
  | nil => rfl
  | cons first rest => simp [List.flatMap_map]

/-- A message starts with a heading, goes on below it, and is told by what is right of the margin. -/
theorem messageLines_shape (severity : Severity) (message : List Char) :
    ∃ heading below, messageLines severity message = heading :: below ∧
      isHeading heading = true ∧ (∀ line ∈ below, List.replicate margin ' ' <+: line) ∧
      (heading :: below).map (·.drop margin) = splitAt '\n' message ∧
      ∀ line ∈ heading :: below, '\n' ∉ line := by
  unfold messageLines
  cases pieces : splitAt '\n' message with
  | nil => exact absurd pieces (splitAt_ne_nil _ _)
  | cons first rest =>
    have free : ∀ piece ∈ first :: rest, '\n' ∉ piece :=
      fun piece member => not_mem_of_mem_splitAt (pieces ▸ member)
    refine ⟨_, _, rfl, rfl, ?_, ?_, ?_⟩
    · intro line member
      obtain ⟨piece, _, rfl⟩ := List.mem_map.mp member
      exact ⟨piece, rfl⟩
    · rw [List.map_cons, List.map_map]
      have below : (List.drop margin ∘ fun line => indentation ++ ' ' :: line) = id := rfl
      rw [below, List.map_id]
      rfl
    · intro line member
      rw [List.mem_cons] at member
      rcases member with rfl | later
      · have unmarked : '\n' ∉ severity.bracket false := by cases severity <;> decide
        have unbroken := free first List.mem_cons_self
        simp [unmarked, unbroken]
      · obtain ⟨piece, listed, rfl⟩ := List.mem_map.mp later
        have unbroken := free piece (List.mem_cons_of_mem _ listed)
        have unset : '\n' ∉ indentation := by decide
        simp [unset, unbroken]

theorem splitAt_flatMap {lines : List (List Char)} (unbroken : ∀ line ∈ lines, '\n' ∉ line)
    (rest : List Char) :
    splitAt '\n' (lines.flatMap (· ++ ['\n']) ++ rest) = lines ++ splitAt '\n' rest := by
  induction lines with
  | nil => rfl
  | cons line lines ih =>
    obtain ⟨here, later⟩ := List.forall_mem_cons.mp unbroken
    rw [List.flatMap_cons, List.append_assoc, List.append_assoc, List.singleton_append,
      splitAt_append_cons here, ih later, List.cons_append]

theorem isHeading_of_indented {line : List Char} (indented : List.replicate margin ' ' <+: line) :
    isHeading line = false := by
  obtain ⟨rest, rfl⟩ := indented
  rfl

/-- Lines that are no headings go to the piece before the first cut. -/
theorem cutAtHeadings_append {below lines first : List (List Char)}
    {blocks : List (List (List Char))} (plain : ∀ line ∈ below, isHeading line = false)
    (cut : cutAtHeadings lines = first :: blocks) :
    cutAtHeadings (below ++ lines) = (below ++ first) :: blocks := by
  induction below with
  | nil => exact cut
  | cons line below ih =>
    obtain ⟨here, later⟩ := List.forall_mem_cons.mp plain
    have rest := ih later
    unfold cutAtHeadings at rest ⊢
    rw [List.cons_append, List.foldr_cons, rest, here]
    rfl

/-- A heading with the lines below it is a piece of its own. -/
theorem cutAtHeadings_block {heading : List Char} {below lines : List (List Char)}
    {blocks : List (List (List Char))} (heads : isHeading heading = true)
    (plain : ∀ line ∈ below, isHeading line = false) (cut : cutAtHeadings lines = [] :: blocks) :
    cutAtHeadings (heading :: below ++ lines) = [] :: (heading :: below) :: blocks := by
  have rest := cutAtHeadings_append plain cut
  unfold cutAtHeadings at rest ⊢
  rw [List.cons_append, List.foldr_cons, rest, List.append_nil, heads]
  rfl

/-- An output that tells what was said, piece by piece, whatever that is. -/
structure Recounts (out : List Char) (said : List (List Char)) : Prop where
  /-- The last line ends. -/
  ended : splitAt '\n' out = outputLines out ++ [[]]
  headings : (outputLines out).countP isHeading = said.length
  indented : ∀ line ∈ outputLines out, isHeading line = false →
    List.replicate margin ' ' <+: line
  blocks : ∃ blocks, cutAtHeadings (outputLines out) = [] :: blocks ∧ blocks.map blockText = said

theorem Recounts.nil : Recounts [] [] where
  ended := rfl
  headings := rfl
  indented := List.forall_mem_nil _
  blocks := ⟨[], rfl, rfl⟩

theorem Recounts.cons {out : List Char} {said : List (List Char)} (severity : Severity)
    (message : List Char) (told : Recounts out said) :
    Recounts (messageText severity false message ++ out) (message :: said) := by
  obtain ⟨heading, below, lines, heads, indented, texts, unbroken⟩ :=
    messageLines_shape severity message
  have plain : ∀ line ∈ below, isHeading line = false :=
    fun line member => isHeading_of_indented (indented line member)
  have split : splitAt '\n' (messageText severity false message ++ out) =
      (heading :: below ++ outputLines out) ++ [[]] := by
    rw [messageText_eq, lines, splitAt_flatMap unbroken, told.ended, List.append_assoc]
  have all : outputLines (messageText severity false message ++ out) =
      heading :: below ++ outputLines out := by
    rw [outputLines, split, List.dropLast_concat]
  obtain ⟨blocks, cut, said⟩ := told.blocks
  constructor
  · rw [split, all]
  · have none : below.countP isHeading = 0 :=
      List.countP_eq_zero.mpr fun line member => by rw [plain line member]; exact Bool.false_ne_true
    rw [all, List.countP_append, List.countP_cons_of_pos heads, none, told.headings,
      List.length_cons]
    omega
  · intro line member unheaded
    rw [all, List.mem_append, List.mem_cons] at member
    rcases member with (rfl | below) | later
    · cases heads.symm.trans unheaded
    · exact indented line below
    · exact told.indented line later unheaded
  · refine ⟨(heading :: below) :: blocks, ?_, ?_⟩
    · rw [all, cutAtHeadings_block heads plain cut]
    · rw [List.map_cons, said, blockText, texts, joinWith_splitAt]

end ShellSurvey
