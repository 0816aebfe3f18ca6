import ShellSurvey.Proofs.Classify.Faults
import ShellSurvey.Proofs.Survey.Queue

namespace ShellSurvey

section

variable {world : World} {lexicon : Lexicon} {probes : Probes} {path : String}

theorem classify_refused {refusal : Refusal}
    (refused : world.disk.lookup false path = .error refusal) :
    classify world lexicon probes path =
      failAt (world.faults .status path) .status { path := path }
        (.error ⟨.status, refusal, { path := path }⟩) := by
  unfold classify World.status
  cases world.faults .status path with
  | some error => rfl
  | none => simp only [refused]; rfl

/-- A classification is refused the status of a path, settled by it, or goes through a file. -/
theorem classify_cases (world : World) (lexicon : Lexicon) (probes : Probes) (path : String) :
    ∃ next, classify world lexicon probes path =
        failAt (world.faults .status path) .status { path := path } next ∧
      ((∃ refusal, world.disk.lookup false path = .error refusal ∧
          next = .error ⟨.status, refusal, { path := path }⟩) ∨
        (∃ node record, world.disk.lookup false path = .ok node ∧
          Record.ofStatus? lexicon path node = some record ∧ next = .ok record) ∨
        ∃ content mode, world.disk.lookup false path = .ok (.file content mode) ∧
          isBackupName (fileNameOf path) = false ∧
          next = course (fun stage => world.faults stage (stage.request path)) lexicon probes content
            (Record.ofEntry lexicon path mode)) := by
  cases found : world.disk.lookup false path with
  | error refusal => exact ⟨_, classify_refused found, Or.inl ⟨refusal, rfl, rfl⟩⟩
  | ok node =>
    cases settled : Record.ofStatus? lexicon path node with
    | some record =>
      exact ⟨_, classify_settled found settled, Or.inr (Or.inl ⟨node, record, rfl, settled, rfl⟩)⟩
    | none =>
      obtain ⟨noBackup, content, mode, rfl⟩ := Record.ofStatus?_eq_none settled
      exact ⟨_, classify_file found noBackup, Or.inr (Or.inr ⟨content, mode, rfl, noBackup, rfl⟩)⟩

end

/-- Something holds of the record that a classification ends with, completely or not. -/
def EndsWith (holds : Record → Prop) (result : Except Failure Record) : Prop :=
  holds (Sighting.ofResult result).record

section

variable {holds : Record → Prop}

theorem EndsWith.failAt {record : Record} (known : holds record) {next : Except Failure Record}
    (later : EndsWith holds next) (fault : Option FileError) (stage : Stage) :
    EndsWith holds (failAt fault stage record next) := by
  cases fault with
  | some error => exact known
  | none => exact later

/-- Something holds of what is known of an open file at each stage. -/
structure Record.Along (holds : Record → Prop) (lexicon : Lexicon) (probes : Probes)
    (content : Bytes) (opened : Record) : Prop where
  start : holds opened
  headSeen : holds (opened.seeHead lexicon content)
  settled : holds (opened.settle lexicon probes content)
  complete : holds ((opened.settle lexicon probes content).seeAll probes content)

theorem Record.Along.course {lexicon : Lexicon} {probes : Probes} {content : Bytes}
    {opened : Record} (along : Along holds lexicon probes content opened)
    (faults : Stage → Option FileError) :
    EndsWith holds (course faults lexicon probes content opened) := by
  have complete : EndsWith holds (.ok _) := along.complete
  exact ((complete.failAt along.settled _ _).failAt along.headSeen _ _).failAt along.start _ _

/-- What holds at every stage holds wherever a classification ends. -/
theorem classify_endsWith {lexicon : Lexicon} {probes : Probes} {path : String}
    (unknown : holds { path := path })
    (settled : ∀ node record, Record.ofStatus? lexicon path node = some record → holds record)
    (along : ∀ content mode,
      Record.Along holds lexicon probes content (.ofEntry lexicon path mode)) (world : World) :
    EndsWith holds (classify world lexicon probes path) := by
  obtain ⟨next, classified, course⟩ := classify_cases world lexicon probes path
  rw [classified]
  refine .failAt unknown ?_ _ _
  rcases course with ⟨refusal, _, rfl⟩ | ⟨node, record, _, known, rfl⟩ | ⟨content, mode, _, _, rfl⟩
  · exact unknown
  · exact settled node record known
  · exact (along content mode).course _

end

theorem Record.path_ofStatus? {lexicon : Lexicon} {path : String} {node : Node} {record : Record}
    (settled : Record.ofStatus? lexicon path node = some record) : record.path = path := by
  rcases Record.ofStatus?_cases settled with rfl | rfl | rfl | rfl <;> rfl

/-- What a classification comes to is told under the path, which is unusable only for a NUL. -/
structure TellsOf (path : String) (result : Except Failure Record) : Prop where
  onPath : (Sighting.ofResult result).record.path = path
  usable : ∀ failure, result = .error failure → failure.cause = .nulInPath → holdsNul path = true

theorem TellsOf.ok {path : String} {record : Record} (known : record.path = path) :
    TellsOf path (.ok record) :=
  ⟨known, fun _ failed _ => nomatch failed⟩

theorem TellsOf.failAt {path : String} {record : Record} (known : record.path = path)
    {next : Except Failure Record} (later : TellsOf path next) (fault : Option FileError)
    (stage : Stage) : TellsOf path (failAt fault stage record next) := by
  cases fault with
  | none => exact later
  | some error =>
    refine ⟨known, ?_⟩
    rintro _ ⟨⟩ ⟨⟩

theorem tellsOf_course (faults : Stage → Option FileError) (lexicon : Lexicon) (probes : Probes)
    (content : Bytes) (opened : Record) :
    TellsOf opened.path (course faults lexicon probes content opened) := by
  obtain ⟨_, _, _, _, _, _, _, _, settledAs⟩ :=
    Record.settle_frame lexicon probes content opened
  have settled : (opened.settle lexicon probes content).path = opened.path := by
    rw [settledAs]
    rfl
  obtain ⟨_, wholeAs⟩ := Record.seeAll_frame probes content (opened.settle lexicon probes content)
  have whole : ((opened.settle lexicon probes content).seeAll probes content).path =
      opened.path := by
    rw [wholeAs]
    exact settled
  have head : (opened.seeHead lexicon content).path = opened.path := rfl
  have start : opened.path = opened.path := rfl
  exact (((TellsOf.ok whole).failAt settled _ .scan).failAt head _ .tail).failAt start _ .head

theorem tellsOf_classify (world : World) (lexicon : Lexicon) (probes : Probes) (path : String) :
    TellsOf path (classify world lexicon probes path) := by
  obtain ⟨next, result, cases⟩ := classify_cases world lexicon probes path
  have start : ({ path := path } : Record).path = path := rfl
  rw [result]
  refine TellsOf.failAt start ?_ _ _
  rcases cases with ⟨refusal, refused, rfl⟩ | ⟨_, record, _, settled, rfl⟩ |
    ⟨content, mode, _, _, rfl⟩
  · refine ⟨rfl, ?_⟩
    rintro _ ⟨⟩ unusable
    have nul : refusal = .nulInPath := unusable
    rw [nul] at refused
    exact Disk.holdsNul_of_lookup refused
  · exact .ok (Record.path_ofStatus? settled)
  · have known := Record.path_ofEntry lexicon path mode
    have course := tellsOf_course (fun stage => world.faults stage (stage.request path)) lexicon
      probes content (Record.ofEntry lexicon path mode)
    rwa [known] at course

theorem course_congr {faults others : Stage → Option FileError}
    (same : ∀ stage ∈ Stage.probing, faults stage = others stage) (lexicon : Lexicon)
    (probes : Probes) (content : Bytes) (opened : Record) :
    course faults lexicon probes content opened = course others lexicon probes content opened := by
  unfold course
  rw [same .head (by decide), same .tail (by decide), same .scan (by decide)]

/-- Only the failures of the requests about a path bear on its classification. -/
theorem classify_congr {world other : World} {path : String} (sameDisk : world.disk = other.disk)
    (sameFaults : ∀ stage ∈ Stage.probing,
      world.faults stage (stage.request path) = other.faults stage (stage.request path))
    (lexicon : Lexicon) (probes : Probes) :
    classify world lexicon probes path = classify other lexicon probes path := by
  have status : world.faults .status path = other.faults .status path :=
    sameFaults .status (by decide)
  obtain ⟨next, result, cases⟩ := classify_cases world lexicon probes path
  rw [result, status]
  rw [sameDisk] at cases
  rcases cases with ⟨_, refused, rfl⟩ | ⟨_, _, found, settled, rfl⟩ | ⟨content, mode, file, noBackup, rfl⟩
  · rw [classify_refused refused]
  · rw [classify_settled found settled]
  · rw [classify_file file noBackup, course_congr sameFaults]
    rfl

theorem Observation.unusable_ofResult {notes : List LogLine} {result : Except Failure Record}
    (unusable : (Observation.of notes (.ofResult result)).unusable = true) :
    ∃ failure, result = .error failure ∧ failure.cause = .nulInPath := by
  cases result with
  | ok record => cases unusable
  | error failure =>
    refine ⟨failure, rfl, ?_⟩
    have kind : failure.kind = .unusablePath := by
      simpa [Observation.of, Observation.unusable, Sighting.ofResult] using unusable
    obtain ⟨stage, cause, record⟩ := failure
    cases cause with
    | nulInPath => rfl
    | failed error =>
      cases stage with
      | status =>
        cases error with
        | system errno path => cases errno <;> cases kind
        | other text => cases kind
      | _ => cases kind

/-- A report on an entry is on its path. -/
theorem path_observePath (world : World) (probes : Probes) (path : String) :
    (observePath world probes path).record.path = path :=
  (tellsOf_classify world .standard probes path).onPath

/-- Only a path with a NUL is unusable. -/
theorem unusable_observePath {path : String} (noNul : holdsNul path = false) (world : World)
    (probes : Probes) : (observePath world probes path).unusable = false := by
  cases unusable : (observePath world probes path).unusable with
  | false => rfl
  | true =>
    obtain ⟨failure, failed, cause⟩ := Observation.unusable_ofResult unusable
    rw [(tellsOf_classify world .standard probes path).usable failure failed cause] at noNul
    cases noNul

theorem observePath_congr {world other : World} {path : String} (sameDisk : world.disk = other.disk)
    (sameFaults : ∀ stage ∈ Stage.probing,
      world.faults stage (stage.request path) = other.faults stage (stage.request path))
    (probes : Probes) : observePath world probes path = observePath other probes path := by
  have status : world.faults .status path = other.faults .status path :=
    sameFaults .status (by decide)
  unfold observePath skipNote World.status
  rw [classify_congr sameDisk sameFaults, sameDisk, status]

/-- A failure of one request bears on nothing but the path that the request is about. -/
theorem observePath_strike {world : World} {stage : Stage} {asked path : String}
    (elsewhere : stage ∈ Stage.probing → stage.request path ≠ asked) (error : FileError)
    (probes : Probes) :
    observePath (world.strike stage asked error) probes path = observePath world probes path := by
  have sameDisk : (world.strike stage asked error).disk = world.disk := rfl
  refine observePath_congr sameDisk (fun other probing => if_neg ?_) probes
  rintro ⟨rfl, same⟩
  exact elsewhere probing same

end ShellSurvey
