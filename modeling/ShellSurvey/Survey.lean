import ShellSurvey.Classify
import ShellSurvey.Lexicon.Standard
import ShellSurvey.Walk

namespace ShellSurvey

/-- A line of the log. -/
inductive LogLine where
  | debug (text : String)
  | warning (text : String)
  deriving DecidableEq, Repr

/-- The log of a walk on its own, in which unlistable directories are only mentioned. -/
def Walk.log (walk : Walk) : List LogLine :=
  walk.unlistable.map fun (path, error) =>
    .warning ("Could not list " ++ path.text ++ ": " ++ error.message)

/-- What a survey came upon, with the log lines that belong to it. -/
structure Observation where
  sighting : Sighting
  notes : List LogLine
  deriving DecidableEq, Repr

def Observation.record (observation : Observation) : Record := observation.sighting.record

def Observation.failed (observation : Observation) : Bool := observation.sighting.failure.isSome

/-- A sighting with its notes; a failure is noted last. -/
def Observation.of (notes : List LogLine) (sighting : Sighting) : Observation :=
  ⟨sighting, notes ++ sighting.failure.toList.map fun failure => .warning failure.message⟩

/-- What went wrong in listing a directory. -/
def listingFailure (error : FileError) : Failure :=
  ⟨.listing, .failed error, { path := error.path, directory := true }⟩

def observePath (world : World) (probes : Probes) (path : String) : Observation :=
  .of ((skipNote world path).toList.map fun note => .debug note.text)
    (.ofResult (classify world .standard probes path))

def observeUnlistable (error : FileError) : Observation :=
  .of [] (.ofResult (.error (listingFailure error)))

def Observation.unusable (observation : Observation) : Bool :=
  match observation.sighting.failure with
  | some failure => failure.kind = .unusablePath
  | none => false

/-- Observations in order, and what broke the survey off if something did. -/
structure Survey where
  observations : List Observation
  broken : Option Refusal
  deriving DecidableEq, Repr

/-- A survey under way. The failures of directories that could not be listed wait in a queue until the
walk comes upon its next entry or to its end. -/
structure SurveyProgress where
  observed : Array Observation := #[]
  waiting : List FileError := []
  broken : Option Refusal := none
  deriving DecidableEq, Repr

/-- Reports the directories that wait. -/
def SurveyProgress.drain (progress : SurveyProgress) : SurveyProgress :=
  { progress with
    observed := progress.observed ++ progress.waiting.map observeUnlistable
    waiting := [] }

/-- One visit of a walk. A path that names nothing at all breaks the survey off. -/
def SurveyProgress.take (world : World) (probes : Probes) (progress : SurveyProgress)
    (visit : Visit) : SurveyProgress :=
  if progress.broken.isSome then progress
  else
    match visit with
    | .unlistable _ error => { progress with waiting := progress.waiting ++ [error] }
    | .entry path =>
      let progress := progress.drain
      let observation := observePath world probes path.text
      if observation.unusable then { progress with broken := some .nulInPath }
      else { progress with observed := progress.observed.push observation }

/-- The walk from one root. When it is broken off, what waits is never reported. -/
def SurveyProgress.takeRoot (world : World) (exclusion : Exclusion) (probes : Probes)
    (progress : SurveyProgress) (root : String) : SurveyProgress :=
  if progress.broken.isSome then progress
  else
    let walk := walk world exclusion (.ofText root)
    let progress := walk.visits.foldl (.take world probes) progress
    if progress.broken.isSome then progress
    else
      match walk.broken with
      | some error => { progress with broken := some (.failed error) }
      | none => progress.drain

def SurveyProgress.survey (progress : SurveyProgress) : Survey :=
  ⟨progress.observed.toList, progress.broken⟩

/-- The survey below one root. -/
def surveyRoot (world : World) (exclusion : Exclusion) (probes : Probes) (root : String) : Survey :=
  (SurveyProgress.takeRoot world exclusion probes {} root).survey

/-- The surveys below several roots, up to the first that is broken off. -/
def survey (world : World) (exclusion : Exclusion) (probes : Probes) (roots : List String) :
    Survey :=
  (roots.foldl (SurveyProgress.takeRoot world exclusion probes) {}).survey

def Survey.log (survey : Survey) : List LogLine := survey.observations.flatMap Observation.notes

/-- The records that were classified without a failure. -/
def Survey.records (survey : Survey) : List Record :=
  (survey.observations.filter fun observation => !observation.failed).map Observation.record

/-- Some path could not be classified. -/
def Survey.anyFailed (survey : Survey) : Bool := survey.observations.any Observation.failed

end ShellSurvey
