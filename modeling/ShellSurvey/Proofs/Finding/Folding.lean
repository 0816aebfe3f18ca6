import Mathlib.Data.List.Induction
import ShellSurvey.Proofs.Finding.Runs
import ShellSurvey.Proofs.Json.Equality

namespace ShellSurvey

/-- A finding located by placing it on a path, once or more, at a line or in the file as a whole. -/
inductive Finding.PlacedOn (path : String) : Finding → Prop
  | once (finding : Finding) {located : Finding} (line : Option Int) (unlocated : finding.location = none)
      (added : finding.locate ⟨path, line.toList⟩ = .ok located) : PlacedOn path located
  | again (finding : Finding) {located : Finding} (line : Option Int) (placed : PlacedOn path finding)
      (added : finding.locate ⟨path, line.toList⟩ = .ok located) : PlacedOn path located

/-- What findings that say the same have in common is passed on. -/
theorem Finding.repeats_trans {a b c : Finding} (first : a.repeats b = true)
    (second : b.repeats c = true) : a.repeats c = true := by
  simp only [repeats, Bool.and_eq_true, decide_eq_true_eq] at first second ⊢
  refine ⟨first.1.trans second.1, ?_⟩
  obtain ⟨_, ab⟩ := first
  obtain ⟨_, bc⟩ := second
  cases va : a.values <;> cases vb : b.values <;> cases vc : c.values <;>
    simp only [va, vb, vc, sameValues, Bool.false_eq_true] at ab bc ⊢
  exact Json.same_trans ab bc

/-- A finding that is located on a path, its lines in increasing order. -/
def Finding.OnPath (path : String) (finding : Finding) : Prop :=
  ∃ lines, finding.location = some ⟨path, lines⟩ ∧ lines.Pairwise (· < ·)

/-- Two findings on one path as one on that path, with the lines of both and the message of the
first. -/
def Finding.joined (path : String) (earlier later : Finding) : Finding :=
  { earlier with location := some ⟨path, sortLines (earlier.lines ++ later.lines)⟩ }

section

variable {path : String} {findings more : List Finding} {earlier later finding : Finding}

theorem Finding.PlacedOn.onPath (placed : finding.PlacedOn path) : finding.OnPath path := by
  induction placed with
  | once _ line unlocated added =>
    rw [locate, unlocated] at added
    cases added
    refine ⟨line.toList, rfl, ?_⟩
    cases line <;> simp
  | again _ line _ added ih =>
    obtain ⟨lines, location, _⟩ := ih
    rw [locate, location] at added
    dsimp only at added
    rw [Location.add, if_pos rfl] at added
    cases added
    exact ⟨_, rfl, pairwise_sortLines _⟩

/-- Any increasing lines can be given one by one. -/
theorem Finding.OnPath.placed (here : finding.OnPath path) : finding.PlacedOn path := by
  obtain ⟨lines, location, sorted⟩ := here
  induction lines using List.reverseRecOn generalizing finding with
  | nil =>
    refine .once { finding with location := none } none rfl ?_
    rw [locate, Option.toList_none, ← location]
  | append_singleton lines line ih =>
    refine .again { finding with location := some ⟨path, lines⟩ } (some line)
      (ih rfl (List.pairwise_append.mp sorted).1) ?_
    have ordered : sortLines (lines ++ [line]) = lines ++ [line] :=
      (pairwise_sortLines _).eq_of_mem_iff sorted (by simp)
    have added : Location.add ⟨path, lines⟩ ⟨path, [line]⟩ = .ok ⟨path, lines ++ [line]⟩ := by
      rw [Location.add, if_pos rfl, ordered]
    dsimp only [locate, Option.toList_some]
    rw [added, Except.map, ← location]

theorem Finding.OnPath.within (here : finding.OnPath path) : finding.In path := by
  obtain ⟨lines, location, _⟩ := here
  rintro place known
  rw [location] at known
  cases known
  rfl

theorem Finding.OnPath.joined : (joined path earlier later).OnPath path :=
  ⟨_, rfl, pairwise_sortLines _⟩

theorem Finding.OnPath.absorb (first : earlier.OnPath path) (second : later.OnPath path) :
    earlier.absorb later = .ok (Finding.joined path earlier later) := by
  obtain ⟨lines, location, _⟩ := first
  obtain ⟨others, place, _⟩ := second
  simp [Finding.absorb, locate, location, place, Location.add, Except.map, Finding.lines,
    Finding.joined]

/-- Of three findings on a path, the last two may be joined first. -/
theorem Finding.joined_assoc (last earlier later : Finding) :
    joined path (joined path last earlier) later = joined path last (joined path earlier later) := by
  simp [joined, Finding.lines, sortLines_sorted_left, sortLines_sorted_right]

/-- A finding on the path of all others can be added to them. -/
theorem appendFinding_onPath (located : ∀ other ∈ findings, other.OnPath path)
    (here : finding.OnPath path) :
    ∃ sum, appendFinding findings finding = .ok sum ∧ ∀ other ∈ sum, other.OnPath path := by
  rcases appendFinding_cases findings finding with ⟨_, appended⟩ | ⟨front, last, rfl, _, folded⟩
  · exact ⟨_, appended, List.forall_mem_append.mpr ⟨located, List.forall_mem_singleton.mpr here⟩⟩
  · obtain ⟨before, ending⟩ := List.forall_mem_append.mp located
    rw [folded, (List.forall_mem_singleton.mp ending).absorb here]
    exact ⟨_, rfl, List.forall_mem_append.mpr ⟨before, List.forall_mem_singleton.mpr .joined⟩⟩

theorem appendFindings_onPath (located : ∀ other ∈ findings, other.OnPath path)
    (here : ∀ finding ∈ more, finding.OnPath path) :
    appendFindings findings more = (foldFindings findings more, none) ∧
      ∀ other ∈ foldFindings findings more, other.OnPath path := by
  unfold foldFindings
  induction more generalizing findings with
  | nil => exact ⟨rfl, located⟩
  | cons finding rest ih =>
    obtain ⟨first, others⟩ := List.forall_mem_cons.mp here
    obtain ⟨sum, appended, together⟩ := appendFinding_onPath located first
    rw [appendFindings, appended]
    exact ih together others

theorem foldFindings_onPath_append {further : List Finding}
    (located : ∀ other ∈ findings, other.OnPath path)
    (here : ∀ finding ∈ more, finding.OnPath path) :
    foldFindings findings (more ++ further) = foldFindings (foldFindings findings more) further := by
  rw [foldFindings, appendFindings_append (appendFindings_onPath located here).1]
  rfl

/-- A finding may be folded into an earlier one before the two are added. -/
theorem foldFindings_joined (located : ∀ other ∈ findings, other.OnPath path)
    (first : earlier.OnPath path) (second : later.OnPath path)
    (repeated : earlier.repeats later = true) :
    foldFindings findings [.joined path earlier later] = foldFindings findings [earlier, later] := by
  have said : (Finding.joined path earlier later).message = earlier.message := rfl
  -- Both have one message, so the last finding is repeated by the sum if it is by the earlier one.
  rcases appendFinding_cases findings earlier with ⟨apart, appended⟩ |
    ⟨front, last, rfl, same, folded⟩
  · have joinedApart : ∀ last ∈ findings.getLast?, last.repeats (.joined path earlier later) = false :=
      fun last known => (Finding.repeats_congr rfl said).trans (apart last known)
    simp only [foldFindings, appendFindings, appended, appendFinding_apart joinedApart,
      appendFinding_repeat repeated, first.absorb second, Except.map]
  · have here := List.forall_mem_singleton.mp (List.forall_mem_append.mp located).2
    have sameJoined : last.repeats (.joined path earlier later) = true :=
      (Finding.repeats_congr rfl said).trans same
    have sameLater : (Finding.joined path last earlier).repeats later = true :=
      (Finding.repeats_congr rfl rfl).trans (Finding.repeats_trans same repeated)
    simp only [foldFindings, appendFindings, folded, here.absorb first, Except.map,
      appendFinding_repeat sameLater, appendFinding_repeat sameJoined,
      Finding.OnPath.joined.absorb second, here.absorb .joined, Finding.joined_assoc]

/-- Folding findings before they are added makes no difference. -/
theorem foldFindings_folded (located : ∀ other ∈ findings, other.OnPath path)
    (here : ∀ finding ∈ more, finding.OnPath path) :
    foldFindings findings (foldFindings [] more) = foldFindings findings more := by
  -- From the end: only the last finding decides what becomes of one more.
  induction more using List.reverseRecOn with
  | nil => rfl
  | append_singleton more finding ih =>
    obtain ⟨before, ending⟩ := List.forall_mem_append.mp here
    have ending := List.forall_mem_singleton.mp ending
    have alone := (appendFindings_onPath (List.forall_mem_nil _) before).2
    rw [foldFindings_onPath_append (List.forall_mem_nil _) before,
      foldFindings_onPath_append located before, ← ih before]
    rcases appendFinding_cases (foldFindings [] more) finding with ⟨_, appended⟩ |
      ⟨front, last, folded, repeated, appended⟩
    · have apart : foldFindings (foldFindings [] more) [finding] = foldFindings [] more ++ [finding] := by
        rw [foldFindings, appendFindings, appended]
        rfl
      rw [apart, foldFindings_onPath_append located alone]
    · rw [folded] at alone appended ⊢
      obtain ⟨frontHere, lastHere⟩ := List.forall_mem_append.mp alone
      have lastHere := List.forall_mem_singleton.mp lastHere
      have joined : foldFindings (front ++ [last]) [finding] = front ++ [.joined path last finding] := by
        rw [foldFindings, appendFindings, appended, lastHere.absorb ending]
        rfl
      have together := (appendFindings_onPath located frontHere).2
      calc foldFindings findings (foldFindings (front ++ [last]) [finding])
          = foldFindings (foldFindings findings front) [.joined path last finding] := by
            rw [joined, foldFindings_onPath_append located frontHere]
        _ = foldFindings (foldFindings findings front) ([last] ++ [finding]) :=
            foldFindings_joined together lastHere ending repeated
        _ = foldFindings (foldFindings findings (front ++ [last])) [finding] := by
            rw [← foldFindings_onPath_append located frontHere, ← List.append_assoc,
              foldFindings_onPath_append located alone]

end

/-- A run on one path has the lines of all its findings, in increasing order. -/
theorem foldFindings_union {path : String} {findings : List Finding}
    (here : ∀ finding ∈ findings, finding.OnPath path) :
    List.Forall₂ (fun run merged => merged.message = run.first.message ∧
        ∃ lines, merged.location = some ⟨path, lines⟩ ∧ lines.Pairwise (· < ·) ∧
          ∀ line, line ∈ lines ↔ ∃ finding ∈ run.findings, line ∈ finding.lines)
      (runsOf findings) (foldFindings [] findings) := by
  obtain ⟨_, runs⟩ := foldFindings_runs fun finding member => (here finding member).within
  have firsts : ∀ run ∈ runsOf findings, run.first.OnPath path :=
    fun run known => here _ (mem_of_mem_runsOf known List.mem_cons_self)
  refine ((List.forall₂_and_left _ _).mpr ⟨firsts, runs⟩).imp ?_
  rintro run merged ⟨⟨lines, location, increasing⟩, merges⟩
  obtain ⟨all, together, union, sorted⟩ := merges.located _ location
  exact ⟨merges.message, all, together, sorted increasing, union⟩

end ShellSurvey
