import Mathlib.Data.List.Forall2
import ShellSurvey.Proofs.Survey.Queue

namespace ShellSurvey

section

variable {alike : Observation → Observation → Prop}

/-- Surveys under way that stand at the same place, with reports that are alike. -/
structure SurveyProgress.Alike (alike : Observation → Observation → Prop)
    (one other : SurveyProgress) : Prop where
  observed : List.Forall₂ alike one.observed.toList other.observed.toList
  waiting : one.waiting = other.waiting
  broken : one.broken = other.broken

variable {one other : SurveyProgress}

theorem SurveyProgress.Alike.drain (same : one.Alike alike other)
    (listings : ∀ error, alike (observeUnlistable error) (observeUnlistable error)) :
    one.drain.Alike alike other.drain where
  observed := by
    have waiting : List.Forall₂ alike (one.waiting.map observeUnlistable)
        (one.waiting.map observeUnlistable) := by
      rw [List.forall₂_map_left_iff, List.forall₂_map_right_iff, List.forall₂_same]
      exact fun error _ => listings error
    simp only [SurveyProgress.drain, Array.toList_appendList, ← same.waiting]
    exact List.rel_append same.observed waiting
  waiting := rfl
  broken := same.broken

variable {world : World} {probes others : Probes}

/-- What relates the reports on each path, be it of an entry or of a directory that could not be
listed. -/
structure ReportsAlike (world : World) (probes others : Probes)
    (alike : Observation → Observation → Prop) : Prop where
  entries : ∀ path, alike (observePath world probes path) (observePath world others path)
  listings : ∀ error, alike (observeUnlistable error) (observeUnlistable error)
  usable : ∀ {observation twin}, alike observation twin → observation.unusable = twin.unusable

variable (reports : ReportsAlike world probes others alike)
include reports

theorem SurveyProgress.Alike.take (same : one.Alike alike other) (visit : Visit) :
    (one.take world probes visit).Alike alike (other.take world others visit) := by
  unfold SurveyProgress.take
  rw [← same.broken]
  by_cases ended : one.broken.isSome = true
  · rw [if_pos ended, if_pos ended]
    exact same
  · rw [if_neg ended, if_neg ended]
    cases visit with
    | unlistable path error =>
      exact ⟨same.observed, congrArg (· ++ [error]) same.waiting, rfl⟩
    | entry path =>
      have drained := same.drain reports.listings
      have entry := reports.entries path.text
      dsimp only
      rw [← reports.usable entry]
      by_cases unusable : (observePath world probes path.text).unusable = true
      · rw [if_pos unusable, if_pos unusable]
        exact ⟨drained.observed, drained.waiting, rfl⟩
      · rw [if_neg unusable, if_neg unusable]
        refine ⟨?_, drained.waiting, drained.broken⟩
        rw [Array.toList_push, Array.toList_push]
        exact List.rel_append drained.observed (.cons entry .nil)

theorem SurveyProgress.Alike.foldl_take (same : one.Alike alike other) (visits : List Visit) :
    (visits.foldl (SurveyProgress.take world probes) one).Alike alike
      (visits.foldl (SurveyProgress.take world others) other) := by
  induction visits generalizing one other with
  | nil => exact same
  | cons visit rest ih => exact ih (same.take reports visit)

theorem SurveyProgress.Alike.takeRoot (same : one.Alike alike other) (exclusion : Exclusion)
    (root : String) :
    (one.takeRoot world exclusion probes root).Alike alike
      (other.takeRoot world exclusion others root) := by
  unfold SurveyProgress.takeRoot
  generalize walk world exclusion (.ofText root) = along
  have after := same.foldl_take reports along.visits
  rw [← same.broken]
  by_cases ended : one.broken.isSome = true
  · rw [if_pos ended, if_pos ended]
    exact same
  · rw [if_neg ended, if_neg ended]
    dsimp only
    rw [← after.broken]
    split
    · exact after
    · cases along.broken with
      | some error => exact ⟨after.observed, after.waiting, rfl⟩
      | none => exact after.drain reports.listings

/-- Surveys of the same trees are alike if they are on each path. -/
theorem survey_alike (exclusion : Exclusion) (roots : List String) :
    List.Forall₂ alike (survey world exclusion probes roots).observations
        (survey world exclusion others roots).observations ∧
      (survey world exclusion probes roots).broken = (survey world exclusion others roots).broken := by
  have along {one other : SurveyProgress} (same : one.Alike alike other) :
      (roots.foldl (SurveyProgress.takeRoot world exclusion probes) one).Alike alike
        (roots.foldl (SurveyProgress.takeRoot world exclusion others) other) := by
    induction roots generalizing one other with
    | nil => exact same
    | cons root rest ih => exact ih (same.takeRoot reports exclusion root)
  have start : SurveyProgress.Alike alike {} {} := ⟨.nil, rfl, rfl⟩
  have ended := along start
  exact ⟨ended.observed, ended.broken⟩

end

end ShellSurvey
