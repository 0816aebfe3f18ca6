import ShellSurvey.Proofs.Classify.Endings

namespace ShellSurvey

theorem mem_markLengths_iff {length : Nat} : length ∈ markLengths ↔ 2 ≤ length ∧ length ≤ 5 := by
  simp only [markLengths, List.mem_cons, List.not_mem_nil, or_false]
  omega

/-- A byte order mark of a length that is looked for. -/
def Lexicon.IsMark (lexicon : Lexicon) (mark : Bytes) : Prop :=
  mark ∈ lexicon.byteOrderMarks ∧ 2 ≤ mark.length ∧ mark.length ≤ 5

instance (lexicon : Lexicon) (mark : Bytes) : Decidable (lexicon.IsMark mark) :=
  inferInstanceAs (Decidable (_ ∧ _ ∧ _))

/-- No mark that is looked for begins another. -/
def Lexicon.MarksApart (lexicon : Lexicon) : Prop :=
  ∀ mark ∈ lexicon.byteOrderMarks, ∀ other ∈ lexicon.byteOrderMarks,
    lexicon.IsMark mark → lexicon.IsMark other → mark <+: other → mark = other

instance (lexicon : Lexicon) : Decidable lexicon.MarksApart :=
  inferInstanceAs (Decidable (∀ mark ∈ lexicon.byteOrderMarks, ∀ other ∈ lexicon.byteOrderMarks, _))

section

variable {lexicon : Lexicon} {content mark : Bytes}

/-- The shortest of the marks that a content starts with. -/
structure Lexicon.LedBy (lexicon : Lexicon) (content mark : Bytes) : Prop where
  known : lexicon.IsMark mark
  leads : mark <+: content
  least : ∀ other, lexicon.IsMark other → other <+: content → mark.length ≤ other.length

theorem Lexicon.markLength_cases (lexicon : Lexicon) (content : Bytes) :
    (∃ mark, lexicon.LedBy content mark ∧ lexicon.markLength content = mark.length) ∨
      (∀ mark, lexicon.IsMark mark → ¬ mark <+: content) ∧ lexicon.markLength content = 0 := by
  have taken : (content.take (lexicon.markLength content)).length = lexicon.markLength content :=
    List.length_take_of_le (lexicon.markLength_le content)
  rcases lexicon.startsWithMark_take content with ⟨nothing, none⟩ | ⟨⟨known, length, leads⟩, least⟩
  · refine Or.inr ⟨fun mark ⟨member, length⟩ leads => ?_, ?_⟩
    · exact none mark ⟨member, mem_markLengths_iff.mpr length, leads⟩
    · rw [← taken, nothing, List.length_nil]
  · refine Or.inl ⟨_, ⟨⟨known, mem_markLengths_iff.mp length⟩, leads, ?_⟩, taken.symm⟩
    intro other ⟨member, length⟩ leads
    exact least other ⟨member, mem_markLengths_iff.mpr length, leads⟩

theorem Lexicon.LedBy.markLength_eq (led : lexicon.LedBy content mark) :
    lexicon.markLength content = mark.length := by
  rcases lexicon.markLength_cases content with ⟨other, otherLed, length⟩ | ⟨none, _⟩
  · have shorter := led.least other otherLed.known otherLed.leads
    have longer := otherLed.least mark led.known led.leads
    omega
  · exact absurd led.leads (none mark led.known)

/-- A mark in front of more bytes is still the shortest there. -/
theorem Lexicon.LedBy.append (led : lexicon.LedBy content mark) (rest : Bytes) :
    lexicon.LedBy (content ++ rest) mark where
  known := led.known
  leads := led.leads.trans (List.prefix_append content rest)
  least other known leads := by
    by_contra shorter
    have whole : mark <+: content ++ rest := led.leads.trans (List.prefix_append content rest)
    have within : other <+: mark := List.prefix_of_prefix_length_le leads whole (by omega)
    exact shorter (led.least other known (within.trans led.leads))

/-- Whatever follows it, a mark is recognised unless another one begins it. -/
theorem Lexicon.IsMark.recognised_iff (known : lexicon.IsMark mark) :
    (∀ rest, lexicon.markLength (mark ++ rest) = mark.length) ↔
      ∀ other, lexicon.IsMark other → other <+: mark → other = mark := by
  constructor
  · intro recognised other otherKnown begins
    have alone := recognised []
    rw [List.append_nil] at alone
    rcases lexicon.markLength_cases mark with ⟨least, led, length⟩ | ⟨none, _⟩
    · have atLeast := led.least other otherKnown begins
      have atMost := begins.length_le
      exact begins.eq_of_length (by omega)
    · exact absurd begins (none other otherKnown)
  · intro apart rest
    refine Lexicon.LedBy.markLength_eq ⟨known, List.prefix_append mark rest, ?_⟩
    intro other otherKnown leads
    by_contra shorter
    have begins : other <+: mark :=
      List.prefix_of_prefix_length_le leads (List.prefix_append mark rest) (by omega)
    rw [apart other otherKnown begins] at shorter
    exact shorter le_rfl

end

/-- Whatever marks a lexicon knows, it sees the shortest of those that are looked for and that a content
starts with, and none only if there is none. Five bytes suffice to tell, and no further bytes take a mark
away again. All marks that are looked for are recognised exactly if none of them begins another. -/
theorem markLength_shortest (lexicon : Lexicon) :
    (∀ content,
      (∃ mark, lexicon.LedBy content mark ∧ lexicon.markLength content = mark.length) ∨
        (∀ mark, lexicon.IsMark mark → ¬ mark <+: content) ∧ lexicon.markLength content = 0) ∧
      (∀ content, lexicon.markLength content = lexicon.markLength (content.take 5)) ∧
      (∀ content rest, lexicon.markLength content ≠ 0 →
        lexicon.markLength (content ++ rest) = lexicon.markLength content) ∧
      (lexicon.MarksApart ↔ ∀ mark rest, lexicon.IsMark mark →
        lexicon.markLength (mark ++ rest) = mark.length) := by
  refine ⟨lexicon.markLength_cases, fun content => (lexicon.markLength_take content).symm, ?_, ?_⟩
  · intro content rest marked
    rcases lexicon.markLength_cases content with ⟨mark, led, length⟩ | ⟨_, unmarked⟩
    · rw [(led.append rest).markLength_eq, length]
    · exact absurd unmarked marked
  · constructor
    · intro apart mark rest known
      refine known.recognised_iff.mpr (fun other otherKnown begins => ?_) rest
      exact apart other otherKnown.1 mark known.1 otherKnown known begins
    · intro recognised other _ mark _ otherKnown known begins
      exact known.recognised_iff.mp (fun rest => recognised mark rest known) other otherKnown begins

/-- Marks that are told apart by their third byte, and one that is too short to be looked for. -/
def shortMarks : Lexicon :=
  { Lexicon.standard with byteOrderMarks := [[1, 2, 3, 4, 5], [1, 2, 4], [1]] }

theorem markLength_shortest_five :
    shortMarks.MarksApart ∧ shortMarks.IsMark [1, 2, 3, 4, 5] ∧
      shortMarks.markLength ([1, 2, 3, 4, 5] ++ [0x23, 0x21]) = 5 ∧
      Lexicon.standard.markLength [0xFF, 0xFE] ≠ 0 ∧
      Lexicon.standard.markLength ([0xFF, 0xFE] ++ [0, 0]) = Lexicon.standard.markLength [0xFF, 0xFE] := by
  have apart : shortMarks.MarksApart := by decide
  have known : shortMarks.IsMark [1, 2, 3, 4, 5] := by decide
  have marked : Lexicon.standard.markLength [0xFF, 0xFE] ≠ 0 := by decide
  exact ⟨apart, known, (markLength_shortest shortMarks).2.2.2.mp apart _ [0x23, 0x21] known, marked,
    (markLength_shortest .standard).2.2.1 _ [0, 0] marked⟩

end ShellSurvey
