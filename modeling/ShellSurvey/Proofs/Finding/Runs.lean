import Mathlib.Data.List.Forall2
import Mathlib.Data.List.TakeWhile
import ShellSurvey.Proofs.Finding.Merging
import ShellSurvey.Rule.Content

namespace ShellSurvey

/-- The line numbers of a finding's location. -/
def Finding.lines (finding : Finding) : List Int := (finding.location.map Location.lines).getD []

/-- A finding and those after it that say the same. -/
structure FindingRun where
  first : Finding
  later : List Finding

def FindingRun.findings (run : FindingRun) : List Finding := run.first :: run.later

/-- The runs of a list: each goes on as long as findings repeat its first one. -/
def runsOf : List Finding → List FindingRun
  | [] => []
  | first :: rest =>
    ⟨first, rest.takeWhile first.repeats⟩ :: runsOf (rest.dropWhile first.repeats)
  termination_by findings => findings.length
  decreasing_by exact Nat.lt_succ_of_le (List.length_dropWhile_le _ _)

theorem flatMap_runsOf (findings : List Finding) :
    (runsOf findings).flatMap FindingRun.findings = findings := by
  induction findings using runsOf.induct with
  | case1 => simp [runsOf]
  | case2 first rest ih =>
    rw [runsOf, List.flatMap_cons, ih, FindingRun.findings, List.cons_append,
      List.takeWhile_append_dropWhile]

theorem mem_of_mem_runsOf {findings : List Finding} {run : FindingRun} {finding : Finding}
    (known : run ∈ runsOf findings) (member : finding ∈ run.findings) : finding ∈ findings := by
  rw [← flatMap_runsOf findings]
  exact List.mem_flatMap.mpr ⟨run, known, member⟩

/-- A finding that is located on a path, or nowhere. -/
def Finding.In (path : String) (finding : Finding) : Prop :=
  ∀ place ∈ finding.location, place.path = path

/-- A finding that findings on one path are merged into. The first one decides whether it is located
at all. -/
structure Merges (path : String) (run : FindingRun) (merged : Finding) : Prop where
  message : merged.message = run.first.message
  unlocated : run.first.location = none → merged.location = none
  located : ∀ place, run.first.location = some place →
    ∃ lines, merged.location = some ⟨path, lines⟩ ∧
      (∀ line, line ∈ lines ↔ ∃ finding ∈ run.findings, line ∈ finding.lines) ∧
      (place.lines.Pairwise (· < ·) → lines.Pairwise (· < ·))

theorem Merges.single {path : String} {finding : Finding} (here : finding.In path) :
    Merges path ⟨finding, []⟩ finding where
  message := rfl
  unlocated := id
  located place known := by
    have located : finding.location = some place := known
    have same := here place located
    subst same
    refine ⟨place.lines, located, fun line => ?_, id⟩
    simp [FindingRun.findings, Finding.lines, located]

/-- A finding of the same path that says the same can be folded in. -/
theorem Merges.absorb {path : String} {run : FindingRun} {merged finding : Finding}
    (merges : Merges path run merged) (here : finding.In path) :
    ∃ sum, merged.absorb finding = .ok sum ∧
      Merges path ⟨run.first, run.later ++ [finding]⟩ sum := by
  have shape : FindingRun.findings ⟨run.first, run.later ++ [finding]⟩ = run.findings ++ [finding] := rfl
  cases first : run.first.location with
  | none =>
    refine ⟨merged, by simp [Finding.absorb, merges.unlocated first], merges.message,
      merges.unlocated, ?_⟩
    intro place known
    rw [first] at known
    cases known
  | some place =>
    obtain ⟨lines, location, union, sorted⟩ := merges.located place first
    cases other : finding.location with
    | none =>
      refine ⟨merged, by simp [Finding.absorb, location, other], merges.message, merges.unlocated, ?_⟩
      intro again known
      rw [first] at known
      cases known
      refine ⟨lines, location, fun line => ?_, sorted⟩
      rw [union, shape]
      simp [Finding.lines, other]
    | some added =>
      have same := here added other
      subst same
      refine ⟨{ merged with location := some ⟨added.path, sortLines (lines ++ added.lines)⟩ }, ?_,
        merges.message, ?_, ?_⟩
      · simp [Finding.absorb, Finding.locate, location, other, Location.add, Except.map]
      · intro none
        rw [first] at none
        cases none
      · intro again known
        refine ⟨_, rfl, fun line => ?_, fun _ => pairwise_sortLines _⟩
        rw [mem_sortLines, List.mem_append, union, shape]
        simp [Finding.lines, other, or_and_right, exists_or]

/-- Findings of one path are folded run by run, from one that stands for the run so far. -/
theorem appendFindings_runs {path : String} {more : List Finding}
    (here : ∀ finding ∈ more, finding.In path) {run : FindingRun} {merged : Finding}
    (merges : Merges path run merged) (front : List Finding) :
    ∃ folded, appendFindings (front ++ [merged]) more = (front ++ folded, none) ∧
      List.Forall₂ (Merges path)
        (⟨run.first, run.later ++ more.takeWhile run.first.repeats⟩ ::
          runsOf (more.dropWhile run.first.repeats)) folded := by
  -- The last finding so far stands for the run that goes on; the ones before it are not touched again.
  induction more generalizing run merged front with
  | nil =>
    refine ⟨[merged], rfl, ?_⟩
    rw [List.takeWhile_nil, List.append_nil, List.dropWhile_nil, runsOf]
    exact .cons merges .nil
  | cons finding rest ih =>
    obtain ⟨nearby, later⟩ := List.forall_mem_cons.mp here
    have same : merged.repeats finding = run.first.repeats finding :=
      Finding.repeats_congr merges.message rfl
    rw [appendFindings]
    cases repeated : run.first.repeats finding with
    | true =>
      obtain ⟨sum, absorbed, mergesMore⟩ := merges.absorb nearby
      obtain ⟨folded, appended, runs⟩ := ih later mergesMore front
      rw [appendFinding_repeat (same.trans repeated), absorbed]
      refine ⟨folded, appended, ?_⟩
      rw [List.takeWhile_cons_of_pos repeated, List.dropWhile_cons_of_pos repeated]
      rwa [List.append_assoc] at runs
    | false =>
      have apart : ∀ last ∈ (front ++ [merged]).getLast?, last.repeats finding = false := by
        rw [List.getLast?_concat]
        rintro last ⟨⟩
        exact same.trans repeated
      obtain ⟨folded, appended, runs⟩ := ih later (.single nearby) (front ++ [merged])
      rw [appendFinding_apart apart]
      refine ⟨merged :: folded, by simpa using appended, ?_⟩
      rw [List.takeWhile_cons_of_neg (by simp [repeated]),
        List.dropWhile_cons_of_neg (by simp [repeated]), List.append_nil, runsOf]
      exact .cons merges runs

/-- Findings of one path are all added, and fold run by run. -/
theorem foldFindings_runs {path : String} {findings : List Finding}
    (here : ∀ finding ∈ findings, finding.In path) :
    (appendFindings [] findings).2 = none ∧
      List.Forall₂ (Merges path) (runsOf findings) (foldFindings [] findings) := by
  cases findings with
  | nil =>
    rw [runsOf]
    exact ⟨rfl, .nil⟩
  | cons first rest =>
    obtain ⟨nearby, later⟩ := List.forall_mem_cons.mp here
    obtain ⟨folded, appended, runs⟩ := appendFindings_runs later (.single nearby) []
    have begun : appendFindings [] (first :: rest) = appendFindings [first] rest := rfl
    rw [foldFindings, begun, runsOf]
    rw [List.nil_append] at appended
    rw [appended]
    exact ⟨rfl, runs⟩

/-- A finding holds all places of another one. -/
def Finding.Keeps (merged finding : Finding) : Prop :=
  ∀ place ∈ finding.location, ∃ kept ∈ merged.location,
    kept.path = place.path ∧ place.lines ⊆ kept.lines

theorem Merges.keeps_iff {path : String} {run : FindingRun} {merged finding : Finding}
    (merges : Merges path run merged) (member : finding ∈ run.findings) (here : finding.In path) :
    merged.Keeps finding ↔ run.first.location ≠ none ∨ finding.location = none := by
  cases first : run.first.location with
  | none =>
    have unlocated := merges.unlocated first
    constructor
    · intro keeps
      refine Or.inr (Option.eq_none_iff_forall_not_mem.mpr fun place known => ?_)
      obtain ⟨kept, located, _⟩ := keeps place known
      rw [unlocated] at located
      cases located
    · rintro (located | nowhere)
      · exact absurd rfl located
      · intro place known
        rw [nowhere] at known
        cases known
  | some begun =>
    obtain ⟨lines, location, union, _⟩ := merges.located begun first
    refine iff_of_true (fun place known => ⟨_, location, (here place known).symm, ?_⟩)
      (Or.inl (Option.some_ne_none begun))
    intro line inside
    refine (union line).mpr ⟨finding, member, ?_⟩
    rw [Option.mem_def] at known
    rw [Finding.lines, known]
    exact inside

/-- Findings that lie on one path or nowhere are all added, each to the finding that stands for its
run. A run that begins with a located finding keeps all places. One that begins without a location
loses every place that comes later. -/
theorem folding_keeps_places {path : String} {findings : List Finding}
    (here : ∀ finding ∈ findings, finding.In path) :
    (appendFindings [] findings).2 = none ∧ (runsOf findings).flatMap FindingRun.findings = findings ∧
      List.Forall₂ (fun run merged => merged.message = run.first.message ∧
        ∀ finding ∈ run.findings,
          merged.Keeps finding ↔ run.first.location ≠ none ∨ finding.location = none)
        (runsOf findings) (foldFindings [] findings) := by
  obtain ⟨added, runs⟩ := foldFindings_runs here
  have parts : ∀ run ∈ runsOf findings, ∀ finding ∈ run.findings, finding ∈ findings :=
    fun run known finding => mem_of_mem_runsOf known
  refine ⟨added, flatMap_runsOf findings, ?_⟩
  refine ((List.forall₂_and_left _ _).mpr ⟨parts, runs⟩).imp ?_
  rintro run merged ⟨inside, merges⟩
  exact ⟨merges.message, fun finding member => merges.keeps_iff member (here _ (inside _ member))⟩

/-- One message three times, once without a place. -/
def scatteredExecs : List Finding :=
  [Kinds.execTraps.atLine "a.sh" 3, { kind := Kinds.execTraps }, Kinds.execTraps.atLine "a.sh" 2]

theorem folding_keeps_places_execs :
    (∀ finding ∈ scatteredExecs, finding.In "a.sh") ∧ ∀ finding ∈ scatteredExecs,
      Finding.Keeps { kind := Kinds.execTraps, location := some ⟨"a.sh", [2, 3]⟩ } finding := by
  have here : ∀ finding ∈ scatteredExecs, finding.In "a.sh" := by
    simp [scatteredExecs, Finding.In, FindingKind.atLine]
  refine ⟨here, fun finding member => ?_⟩
  obtain ⟨_, _, runs⟩ := folding_keeps_places here
  have single : runsOf scatteredExecs = [⟨Kinds.execTraps.atLine "a.sh" 3, scatteredExecs.tail⟩] := by
    simp [scatteredExecs, runsOf, Finding.repeats, sameValues, FindingKind.atLine]
  have folded : foldFindings [] scatteredExecs =
      [{ kind := Kinds.execTraps, location := some ⟨"a.sh", [2, 3]⟩ }] := rfl
  rw [single, folded] at runs
  cases runs with
  | cons run _ => exact (run.2 finding member).mpr (Or.inl (Option.some_ne_none _))

/-- One message twice, first without a place. -/
def lateExecs : List Finding := [{ kind := Kinds.execTraps }, Kinds.execTraps.atLine "a.sh" 3]

theorem folding_loses_line :
    ¬ ∀ (path : String) (findings : List Finding), (∀ finding ∈ findings, finding.In path) →
      List.Forall₂ (fun run merged => ∀ finding ∈ run.findings, merged.Keeps finding)
        (runsOf findings) (foldFindings [] findings) := by
  intro keeps
  have here : ∀ finding ∈ lateExecs, finding.In "a.sh" := by
    simp [lateExecs, Finding.In, FindingKind.atLine]
  have runs := keeps "a.sh" lateExecs here
  have single : runsOf lateExecs =
      [⟨{ kind := Kinds.execTraps }, [Kinds.execTraps.atLine "a.sh" 3]⟩] := by
    simp [lateExecs, runsOf, Finding.repeats, sameValues, FindingKind.atLine]
  have folded : foldFindings [] lateExecs = [{ kind := Kinds.execTraps }] := rfl
  rw [single, folded] at runs
  cases runs with
  | cons lost _ =>
    obtain ⟨kept, located, _⟩ := lost _ (List.mem_cons_of_mem _ (List.mem_singleton_self _)) _ rfl
    cases located

end ShellSurvey
