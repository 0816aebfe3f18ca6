import ShellSurvey.Proofs.Classify.Probed
import ShellSurvey.Proofs.Survey.Alike
import ShellSurvey.Proofs.Survey.Observe

namespace ShellSurvey

/-- A record without what is only learnt on request. -/
def Record.unprobed (record : Record) : Record :=
  { record with finalEol := .notComputed, containsCr := false }

theorem Record.unprobed_conclude (lexicon : Lexicon) (content : Bytes) (record : Record) :
    (record.conclude lexicon content).unprobed = record.unprobed.conclude lexicon content :=
  (Record.conclude_probed lexicon content record .notComputed false).symm

theorem Record.unprobed_seeTail (probes : Probes) (content : Bytes) (record : Record) :
    (record.seeTail probes content).unprobed = record.unprobed := by
  unfold seeTail
  split <;> rfl

theorem Record.unprobed_seeAll (probes : Probes) (content : Bytes) (record : Record) :
    (record.seeAll probes content).unprobed = record.unprobed := by
  unfold seeAll
  split <;> rfl

/-- A sighting without what is only learnt on request. -/
def Sighting.unprobed (sighting : Sighting) : Sighting :=
  { sighting with record := sighting.record.unprobed }

/-- A classification that was asked for nothing, next to one that was asked for more. -/
def PlainOf (plain probed : Except Failure Record) : Prop :=
  Sighting.ofResult plain = (Sighting.ofResult probed).unprobed

theorem PlainOf.error {failure : Failure} (plain : failure.record.unprobed = failure.record) :
    PlainOf (.error failure) (.error failure) := by
  simp [PlainOf, Sighting.ofResult, Sighting.unprobed, plain]

theorem PlainOf.ok {plain probed : Record} (same : probed.unprobed = plain) :
    PlainOf (.ok plain) (.ok probed) := by
  simp [PlainOf, Sighting.ofResult, Sighting.unprobed, same]

theorem PlainOf.failAt {record : Record} (known : record.unprobed = record)
    {plain probed : Except Failure Record} (later : PlainOf plain probed) (fault : Option FileError)
    (stage : Stage) : PlainOf (failAt fault stage record plain) (failAt fault stage record probed) := by
  cases fault with
  | some error => exact .error known
  | none => exact later

theorem plainOf_course {faults : Stage → Option FileError} (tail : faults .tail = none)
    (scan : faults .scan = none) (lexicon : Lexicon) (probes : Probes) (content : Bytes)
    {opened : Record} (known : opened.unprobed = opened) :
    PlainOf (course faults lexicon {} content opened) (course faults lexicon probes content opened) := by
  have settled : (opened.settle lexicon probes content).unprobed = opened.settle lexicon {} content := by
    have head : (opened.seeHead lexicon content).unprobed = opened.seeHead lexicon content :=
      congrArg (Record.seeHead lexicon content) known
    rw [Record.settle, Record.unprobed_conclude, Record.unprobed_seeTail, head]
    rfl
  unfold course
  simp only [tail, scan, ite_self]
  refine PlainOf.failAt known ?_ _ _
  refine PlainOf.ok ?_
  rw [Record.unprobed_seeAll, settled]
  rfl

/-- If neither the end of a file nor its carriage returns are refused, asking for them changes nothing
else. -/
theorem plainOf_classify {world : World} {path : String}
    (tail : world.faults .tail (Stage.tail.request path) = none)
    (scan : world.faults .scan (Stage.scan.request path) = none) (lexicon : Lexicon)
    (probes : Probes) :
    PlainOf (classify world lexicon {} path) (classify world lexicon probes path) := by
  obtain ⟨next, result, cases⟩ := classify_cases world lexicon probes path
  rw [result]
  rcases cases with ⟨_, refused, rfl⟩ | ⟨_, _, found, settled, rfl⟩ |
    ⟨content, mode, file, noBackup, rfl⟩
  · rw [classify_refused refused]
    exact PlainOf.failAt rfl (.error rfl) _ _
  · rw [classify_settled found settled]
    exact PlainOf.failAt rfl (.ok (Record.probed_ofStatus? settled)) _ _
  · rw [classify_file file noBackup]
    exact PlainOf.failAt rfl (plainOf_course tail scan lexicon probes content
      (Record.probed_ofEntry lexicon path mode)) _ _

def Observation.unprobed (observation : Observation) : Observation :=
  { observation with sighting := observation.sighting.unprobed }

section

variable {world : World}
  (calm : ∀ path, world.faults .tail path = none ∧ world.faults .scan path = none)
include calm

/-- Surveys with and without probes on request are alike, report by report. -/
theorem reportsAlike_unprobed (probes : Probes) :
    ReportsAlike world probes {} fun observation plain => observation.unprobed = plain where
  entries path := by
    have plain : PlainOf (classify world .standard {} path) (classify world .standard probes path) :=
      plainOf_classify (calm _).1 (calm _).2 .standard probes
    unfold observePath Observation.of Observation.unprobed
    rw [plain]
    rfl
  listings error := rfl
  usable same := same ▸ rfl

/-- Where no probe on request fails, surveys with and without them differ in nothing but what those
probes tell. -/
theorem survey_unprobed (exclusion : Exclusion) (probes : Probes) (roots : List String) :
    survey world exclusion {} roots =
      ⟨(survey world exclusion probes roots).observations.map Observation.unprobed,
        (survey world exclusion probes roots).broken⟩ := by
  obtain ⟨observed, broken⟩ :=
    survey_alike (reportsAlike_unprobed calm probes) exclusion roots
  have changed := List.forall₂_map_left_iff.mpr observed
  rw [List.forall₂_eq_eq_eq] at changed
  rw [changed, broken]

theorem records_unprobed (exclusion : Exclusion) (probes : Probes) (roots : List String) :
    (survey world exclusion {} roots).records =
      (survey world exclusion probes roots).records.map Record.unprobed := by
  have failed (observation : Observation) : observation.unprobed.failed = observation.failed := rfl
  have record (observation : Observation) :
      observation.unprobed.record = observation.record.unprobed := rfl
  rw [survey_unprobed calm exclusion probes roots]
  simp only [Survey.records, List.filter_map, List.map_map, Function.comp_def, failed, record]

theorem anyFailed_unprobed (exclusion : Exclusion) (probes : Probes) (roots : List String) :
    (survey world exclusion {} roots).anyFailed = (survey world exclusion probes roots).anyFailed := by
  have failed (observation : Observation) : observation.unprobed.failed = observation.failed := rfl
  rw [survey_unprobed calm exclusion probes roots]
  simp only [Survey.anyFailed, List.any_map, Function.comp_def, failed]

end

end ShellSurvey
