import Mathlib.Data.List.TakeWhile
import ShellSurvey.Proofs.Walk.Following
import ShellSurvey.Survey

namespace ShellSurvey

/-- What a survey reports about a visit. -/
def Visit.observe (world : World) (probes : Probes) : Visit → Observation
  | .entry path => observePath world probes path.text
  | .unlistable _ error => observeUnlistable error

/-- A survey with one more report. It ends where a path names nothing at all. -/
def Survey.see (survey : Survey) (observation : Observation) : Survey :=
  if survey.broken.isSome then survey
  else if observation.unusable then { survey with broken := some .nulInPath }
  else { survey with observations := survey.observations ++ [observation] }

/-- Some reports as a survey: those before the first on a path that names nothing at all. -/
def Survey.upTo (observations : List Observation) : Survey where
  observations := observations.takeWhile fun observation => !observation.unusable
  broken := if observations.any Observation.unusable then some .nulInPath else none

theorem Survey.upTo_usable {observations : List Observation}
    (usable : ∀ observation ∈ observations, observation.unusable = false) :
    upTo observations = ⟨observations, none⟩ := by
  have kept : observations.takeWhile (fun observation => !observation.unusable) = observations :=
    List.takeWhile_eq_self_iff.mpr fun observation member => by simp [usable observation member]
  have none : observations.any Observation.unusable = false :=
    List.any_eq_false.mpr fun observation member => by simp [usable observation member]
  simp only [upTo, kept, none, Bool.false_eq_true, if_false]

theorem Survey.foldl_see_broken {survey : Survey} (broken : survey.broken.isSome = true)
    (observations : List Observation) : observations.foldl see survey = survey := by
  induction observations with
  | nil => rfl
  | cons observation rest ih =>
    have stays : survey.see observation = survey := if_pos broken
    rw [List.foldl_cons, stays, ih]

theorem Survey.foldl_see (before observations : List Observation) :
    observations.foldl see ⟨before, none⟩ =
      ⟨before ++ (upTo observations).observations, (upTo observations).broken⟩ := by
  induction observations generalizing before with
  | nil => simp [upTo]
  | cons observation rest ih =>
    rw [List.foldl_cons]
    cases unusable : observation.unusable with
    | true =>
      have ends : see ⟨before, none⟩ observation = ⟨before, some .nulInPath⟩ := by
        simp [see, unusable]
      rw [ends, foldl_see_broken rfl]
      simp [upTo, unusable]
    | false =>
      have goesOn : see ⟨before, none⟩ observation = ⟨before ++ [observation], none⟩ := by
        simp [see, unusable]
      rw [goesOn, ih]
      simp [upTo, unusable]

/-- A survey under way as it stands once everything that waits is reported. -/
def SurveyProgress.outlook (progress : SurveyProgress) : Survey :=
  if progress.broken.isSome then progress.survey else progress.drain.survey

/-- Nothing waits unless the survey is broken off. -/
def SurveyProgress.Settled (progress : SurveyProgress) : Prop :=
  progress.broken = none → progress.waiting = []

theorem SurveyProgress.Settled.outlook {progress : SurveyProgress} (settled : progress.Settled) :
    progress.outlook = progress.survey := by
  unfold SurveyProgress.outlook
  cases broken : progress.broken with
  | some refusal => rfl
  | none => simp [drain, SurveyProgress.survey, settled broken]

/-- A visit adds its report, though it may have to wait. -/
theorem SurveyProgress.outlook_take (world : World) (probes : Probes) (progress : SurveyProgress)
    (visit : Visit) :
    (progress.take world probes visit).outlook = progress.outlook.see (visit.observe world probes) := by
  cases broken : progress.broken with
  | some refusal =>
    have stays : progress.take world probes visit = progress := if_pos (by rw [broken]; rfl)
    have known : progress.outlook.broken.isSome = true := by
      simp [outlook, survey, broken]
    rw [stays]
    exact (if_pos known).symm
  | none =>
    have whole : progress.outlook = ⟨progress.observed.toList ++
        progress.waiting.map observeUnlistable, none⟩ := by
      simp [outlook, survey, drain, broken]
    rw [whole]
    cases visit with
    | unlistable path error =>
      have usable : (observeUnlistable error).unusable = false := rfl
      simp [take, outlook, survey, drain, broken, Visit.observe, Survey.see, usable]
    | entry path =>
      cases unusable : (observePath world probes path.text).unusable <;>
        simp [take, outlook, survey, drain, broken, Visit.observe, Survey.see, unusable]

theorem SurveyProgress.outlook_foldl_take (world : World) (probes : Probes)
    (progress : SurveyProgress) (visits : List Visit) :
    (visits.foldl (take world probes) progress).outlook =
      (visits.map (Visit.observe world probes)).foldl Survey.see progress.outlook := by
  induction visits generalizing progress with
  | nil => rfl
  | cons visit rest ih => rw [List.foldl_cons, ih, outlook_take, List.map_cons, List.foldl_cons]

section

variable {world : World} {exclusion : Exclusion}

theorem SurveyProgress.foldl_takeRoot_broken {probes : Probes} {progress : SurveyProgress}
    (broken : progress.broken.isSome = true) (roots : List String) :
    roots.foldl (takeRoot world exclusion probes) progress = progress := by
  induction roots with
  | nil => rfl
  | cons root rest ih =>
    have stays : progress.takeRoot world exclusion probes root = progress := if_pos broken
    rw [List.foldl_cons, stays, ih]

/-- A walk that is not broken off leaves nothing waiting for the next one. -/
theorem SurveyProgress.takeRoot_settled {root : String}
    (unbroken : (walk world exclusion (.ofText root)).broken = none) (probes : Probes)
    {progress : SurveyProgress} (settled : progress.Settled) :
    (progress.takeRoot world exclusion probes root).Settled ∧
      (progress.takeRoot world exclusion probes root).survey =
        ((walk world exclusion (.ofText root)).visits.map (Visit.observe world probes)).foldl
          Survey.see progress.survey := by
  rw [← settled.outlook, ← outlook_foldl_take]
  cases broken : progress.broken with
  | some refusal =>
    have stays : progress.takeRoot world exclusion probes root = progress :=
      if_pos (by rw [broken]; rfl)
    have known : progress.outlook.broken.isSome = true := by simp [outlook, survey, broken]
    rw [stays, outlook_foldl_take, Survey.foldl_see_broken known]
    exact ⟨settled, settled.outlook.symm⟩
  | none =>
    unfold takeRoot
    simp only [broken, unbroken, Option.isSome_none, Bool.false_eq_true, if_false]
    cases ended : ((walk world exclusion (.ofText root)).visits.foldl (take world probes)
        progress).broken with
    | some refusal =>
      rw [if_pos Option.isSome_some]
      refine ⟨fun noBreak => ?_, by simp [outlook, ended]⟩
      rw [ended] at noBreak
      cases noBreak
    | none =>
      rw [if_neg (by simp)]
      exact ⟨fun _ => rfl, by simp [outlook, ended]⟩

theorem SurveyProgress.foldl_takeRoot {roots : List String}
    (unbroken : ∀ root ∈ roots, (walk world exclusion (.ofText root)).broken = none)
    (probes : Probes) {progress : SurveyProgress} (settled : progress.Settled) :
    (roots.foldl (takeRoot world exclusion probes) progress).survey =
      (roots.flatMap fun root =>
        (walk world exclusion (.ofText root)).visits.map (Visit.observe world probes)).foldl
        Survey.see progress.survey := by
  induction roots generalizing progress with
  | nil => rfl
  | cons root rest ih =>
    obtain ⟨here, later⟩ := List.forall_mem_cons.mp unbroken
    obtain ⟨next, seen⟩ := takeRoot_settled here probes settled
    rw [List.foldl_cons, ih later next, seen, List.flatMap_cons, List.foldl_append]

/-- The visits of the walks from some roots, one walk after another. -/
def visitsBelow (world : World) (exclusion : Exclusion) (roots : List String) : List Visit :=
  roots.flatMap fun root => (walk world exclusion (.ofText root)).visits

/-- A survey reports the visits of its walks one after another. -/
theorem survey_eq_upTo {roots : List String}
    (told : ∀ root ∈ roots, world.TellsTree (.ofText root)) (probes : Probes) :
    survey world exclusion probes roots =
      .upTo ((visitsBelow world exclusion roots).map (Visit.observe world probes)) := by
  have unbroken (root : String) (member : root ∈ roots) :
      (walk world exclusion (.ofText root)).broken = none := by
    rw [walk_eq_tour (told root member)]
  have start : SurveyProgress.Settled {} := fun _ => rfl
  have empty : SurveyProgress.survey {} = ⟨[], none⟩ := rfl
  rw [survey, SurveyProgress.foldl_takeRoot unbroken probes start, empty, Survey.foldl_see,
    List.nil_append, visitsBelow, List.map_flatMap]

end

theorem surveyRoot_eq (world : World) (exclusion : Exclusion) (probes : Probes) (root : String) :
    surveyRoot world exclusion probes root = survey world exclusion probes [root] := by
  rw [surveyRoot, survey, List.foldl_cons, List.foldl_nil]

end ShellSurvey
