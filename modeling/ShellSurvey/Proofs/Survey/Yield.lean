import ShellSurvey.Proofs.Classify.Coherence
import ShellSurvey.Proofs.Lexicon.Namesakes
import ShellSurvey.Proofs.Record.RoundTrip
import ShellSurvey.Proofs.Survey.Observe
import ShellSurvey.Proofs.Walk.Descent

namespace ShellSurvey

theorem course_eq_ok {faults : Stage → Option FileError} {lexicon : Lexicon} {probes : Probes}
    {content : Bytes} {opened record : Record}
    (ended : course faults lexicon probes content opened = .ok record) :
    record = (opened.settle lexicon probes content).seeAll probes content := by
  have seen := failAt_eq_ok (failAt_eq_ok (failAt_eq_ok ended))
  exact (Except.ok.inj seen).symm

/-- What a classification without a failure comes to. -/
theorem classify_outcome {world : World} {lexicon : Lexicon} {probes : Probes} {path : String}
    {record : Record} (classified : classify world lexicon probes path = .ok record) :
    ∃ node, world.disk.lookup false path = .ok node ∧
      (Record.ofStatus? lexicon path node = some record ∨
        ∃ content mode, node = .file content mode ∧
          record = ((Record.ofEntry lexicon path mode).settle lexicon probes content).seeAll probes
            content) := by
  obtain ⟨next, result, cases⟩ := classify_cases world lexicon probes path
  have ended := failAt_eq_ok (result.symm.trans classified)
  rcases cases with ⟨_, _, rfl⟩ | ⟨node, _, found, settled, rfl⟩ | ⟨content, mode, file, _, rfl⟩
  · cases ended
  · cases ended
    exact ⟨node, found, Or.inl settled⟩
  · exact ⟨_, file, Or.inr ⟨content, mode, rfl, course_eq_ok ended⟩⟩

/-- What a classification ends with is coherent, and a path without a NUL. -/
theorem classify_ok {world : World} {lexicon : Lexicon} {probes : Probes} {path : String}
    {record : Record} (classified : classify world lexicon probes path = .ok record) :
    record.Coherent ∧ NulFree record.path := by
  have onPath : record.path = path := by
    have told := (tellsOf_classify world lexicon probes path).onPath
    rw [classified] at told
    exact told
  rw [onPath]
  obtain ⟨node, found, settled | ⟨content, mode, rfl, rfl⟩⟩ := classify_outcome classified
  · exact ⟨Record.coherent_ofStatus? settled, Disk.nulFree_of_lookup found⟩
  · have begun := (Record.begun_ofEntry lexicon path mode).seeHead lexicon content
    have concluded := (begun.seeTail probes content).conclude lexicon content
    exact ⟨(concluded.seeAll probes content).coherent, Disk.nulFree_of_lookup found⟩

theorem Record.directory_ofStatus? {lexicon : Lexicon} {path : String} {node : Node}
    {record : Record} (settled : Record.ofStatus? lexicon path node = some record) :
    record.directory = node.isDirectory := by
  cases node with
  | directory entries =>
    cases settled
    rfl
  | file content mode | pipe mode | link target =>
    by_cases backup : isBackupName (fileNameOf path) = true
    · cases (if_pos backup).symm.trans settled
      rfl
    · cases (if_neg backup).symm.trans settled <;> rfl

theorem Record.directory_whole (lexicon : Lexicon) (probes : Probes) (content : Bytes)
    (path : String) (mode : Nat) :
    (((Record.ofEntry lexicon path mode).settle lexicon probes content).seeAll probes
      content).directory = false := by
  obtain ⟨_, whole⟩ := Record.seeAll_frame probes content
    ((Record.ofEntry lexicon path mode).settle lexicon probes content)
  obtain ⟨_, _, _, _, _, _, _, _, settled⟩ :=
    Record.settle_frame lexicon probes content (Record.ofEntry lexicon path mode)
  rw [whole, settled, ofEntry, implyInterpreter_eq]
  rfl

/-- A record is a directory's if its path names one. -/
theorem directory_of_classify {world : World} {lexicon : Lexicon} {probes : Probes} {path : String}
    {record : Record} (classified : classify world lexicon probes path = .ok record) :
    ∃ node, world.disk.lookup false path = .ok node ∧ record.directory = node.isDirectory := by
  obtain ⟨node, found, settled | ⟨content, mode, rfl, rfl⟩⟩ := classify_outcome classified
  · exact ⟨node, found, Record.directory_ofStatus? settled⟩
  · exact ⟨_, found, Record.directory_whole lexicon probes content path mode⟩

/-- An interpreter that can be told from its name. -/
def Interpreter.Restorable (interpreter : Interpreter) : Prop :=
  .ofName interpreter.name = interpreter

instance (interpreter : Interpreter) : Decidable interpreter.Restorable :=
  inferInstanceAs (Decidable (_ = _))

theorem Interpreter.restorable_ofName (name : String) : (ofName name).Restorable :=
  congrArg ofName (name_ofName name)

theorem Interpreter.restorable_genericPosix : genericPosix.Restorable := by decide

theorem Record.reread_of_restorable {record : Record}
    (restorable : record.interpreter.Restorable) : record.reread = record := by
  rw [reread, restorable]

/-- No extension implies an interpreter by a name that stands for none in particular. -/
def Lexicon.ImpliesKnown (lexicon : Lexicon) : Prop :=
  ∀ entry ∈ lexicon.extensionInterpreters, (Interpreter.known entry.2).Restorable

theorem Lexicon.impliesKnown_standard : Lexicon.standard.ImpliesKnown := by
  unfold ImpliesKnown
  decide

section

variable {lexicon : Lexicon} (impliesKnown : lexicon.ImpliesKnown)
include impliesKnown

theorem Lexicon.ImpliesKnown.restorable {extension name : String}
    (implied : lexicon.extensionInterpreter extension = some name) :
    (Interpreter.known name).Restorable :=
  impliesKnown _ (mem_of_lookup implied)

/-- A shebang names an interpreter that can be told from its name. -/
theorem Lexicon.ImpliesKnown.shebang {extension text : String} {read : Shebang}
    (parsed : Shebang.parse? lexicon (lexicon.extensionInterpreter extension) text = some read) :
    read.interpreter.Restorable := by
  have fallback : (Interpreter.ofFallback
      (lexicon.extensionInterpreter extension)).Restorable := by
    unfold Interpreter.ofFallback
    cases implied : lexicon.extensionInterpreter extension with
    | none => exact Interpreter.restorable_genericPosix
    | some name =>
      dsimp only
      split
      · exact Interpreter.restorable_genericPosix
      · exact impliesKnown.restorable implied
  have program (name : String) : (Interpreter.ofProgram lexicon name).Restorable := by
    unfold Interpreter.ofProgram
    split <;> exact Interpreter.restorable_ofName _
  obtain ⟨words, _, rfl⟩ := Option.map_eq_some_iff.mp parsed
  cases words with
  | nil => exact fallback
  | cons word flags =>
    dsimp only
    split
    · exact fallback
    · exact program (baseName word)

theorem Lexicon.ImpliesKnown.conclude {record : Record}
    (restorable : record.interpreter.Restorable) (content : Bytes) :
    (record.conclude lexicon content).interpreter.Restorable := by
  unfold Record.conclude
  rcases record.heed_cases lexicon (FirstLine.ofContent lexicon content).line with
    ⟨read, _, parsed, heeded⟩ | ⟨_, heeded⟩
  · rw [heeded]
    exact impliesKnown.shebang parsed
  · rw [heeded]
    dsimp only [Record.assignFamily]
    split
    · exact Interpreter.restorable_genericPosix
    · exact restorable

theorem Lexicon.ImpliesKnown.ofEntry (path : String) (mode : Nat) :
    (Record.ofEntry lexicon path mode).interpreter.Restorable := by
  rw [Record.ofEntry, Record.implyInterpreter_eq]
  dsimp only
  cases implied : lexicon.extensionInterpreter _ with
  | none => exact (by decide : Interpreter.unresolved.Restorable)
  | some name => exact impliesKnown.restorable implied

/-- Whatever the lexicon, as long as it implies nothing by a name that stands for none in particular,
the interpreter that a classification finds can be told from its name. -/
theorem classify_restorable {world : World} {probes : Probes} {path : String} {record : Record}
    (classified : classify world lexicon probes path = .ok record) :
    record.interpreter.Restorable := by
  have unresolved : Interpreter.unresolved.Restorable := by decide
  obtain ⟨node, _, settled | ⟨content, mode, _, rfl⟩⟩ := classify_outcome classified
  · rcases Record.ofStatus?_cases settled with rfl | rfl | rfl | rfl <;> exact unresolved
  · obtain ⟨_, whole⟩ := Record.seeAll_frame probes content
      ((Record.ofEntry lexicon path mode).settle lexicon probes content)
    rw [whole]
    refine impliesKnown.conclude ?_ content
    have opened := impliesKnown.ofEntry path mode
    unfold Record.seeTail
    split <;> exact opened

end

/-- What a survey reports about a visit, or else what it reported before. -/
theorem Survey.mem_see {survey : Survey} {observation other : Observation}
    (member : other ∈ (survey.see observation).observations) :
    other ∈ survey.observations ∨ other = observation := by
  unfold see at member
  split at member
  · exact Or.inl member
  split at member
  · exact Or.inl member
  · exact (List.mem_append.mp member).imp_right List.mem_singleton.mp

theorem Survey.mem_foldl_see {survey : Survey} {observations : List Observation}
    {other : Observation} (member : other ∈ (observations.foldl see survey).observations) :
    other ∈ survey.observations ∨ other ∈ observations := by
  induction observations generalizing survey with
  | nil => exact Or.inl member
  | cons observation rest ih =>
    rcases ih member with earlier | later
    · rcases mem_see earlier with before | rfl
      · exact Or.inl before
      · exact Or.inr List.mem_cons_self
    · exact Or.inr (List.mem_cons_of_mem _ later)

/-- What is reported is part of the outlook. -/
theorem SurveyProgress.survey_subset_outlook (progress : SurveyProgress) :
    progress.survey.observations ⊆ progress.outlook.observations := by
  unfold outlook
  split
  · exact List.Subset.refl _
  · simp [survey, drain]

section

variable {world : World} {exclusion : Exclusion} {probes : Probes}

/-- A walk adds nothing to the outlook but the reports of its visits, even if it is broken off. -/
theorem SurveyProgress.mem_outlook_takeRoot {progress : SurveyProgress} {root : String}
    {observation : Observation}
    (member : observation ∈ (progress.takeRoot world exclusion probes root).outlook.observations) :
    observation ∈ progress.outlook.observations ∨
      ∃ visit ∈ (walk world exclusion (.ofText root)).visits,
        visit.observe world probes = observation := by
  have along (seen : observation ∈ ((walk world exclusion (.ofText root)).visits.foldl
      (take world probes) progress).outlook.observations) :
      observation ∈ progress.outlook.observations ∨
        ∃ visit ∈ (walk world exclusion (.ofText root)).visits,
          visit.observe world probes = observation := by
    rw [outlook_foldl_take] at seen
    exact (Survey.mem_foldl_see seen).imp_right List.mem_map.mp
  unfold takeRoot at member
  dsimp only at member
  generalize (walk world exclusion (.ofText root)).visits.foldl (take world probes) progress =
    ended at member along
  split at member
  · exact Or.inl member
  split at member
  · exact along member
  · next unbroken =>
    have stopped : ended.drain.outlook = ended.outlook := by
      simp [outlook, drain, unbroken]
    cases broken : (walk world exclusion (.ofText root)).broken with
    | some error =>
      have reported : SurveyProgress.outlook { ended with broken := some (.failed error) } =
          ⟨ended.survey.observations, some (.failed error)⟩ := rfl
      rw [broken] at member
      dsimp only at member
      rw [reported] at member
      exact along (ended.survey_subset_outlook member)
    | none =>
      rw [broken] at member
      dsimp only at member
      rw [stopped] at member
      exact along member

/-- Every observation of a survey is the report of a visit that one of its walks makes. -/
theorem mem_observations {roots : List String} {observation : Observation}
    (member : observation ∈ (survey world exclusion probes roots).observations) :
    ∃ visit ∈ visitsBelow world exclusion roots, visit.observe world probes = observation := by
  have along {progress : SurveyProgress} (seen : observation ∈
      (roots.foldl (SurveyProgress.takeRoot world exclusion probes) progress).outlook.observations) :
      observation ∈ progress.outlook.observations ∨
        ∃ visit ∈ visitsBelow world exclusion roots, visit.observe world probes = observation := by
    clear member
    induction roots generalizing progress with
    | nil => exact Or.inl seen
    | cons root rest ih =>
      unfold visitsBelow
      rw [List.flatMap_cons]
      rcases ih seen with earlier | ⟨visit, later, reported⟩
      · rcases SurveyProgress.mem_outlook_takeRoot earlier with before | ⟨visit, here, reported⟩
        · exact Or.inl before
        · exact Or.inr ⟨visit, List.mem_append_left _ here, reported⟩
      · exact Or.inr ⟨visit, List.mem_append_right _ later, reported⟩
  rcases along (SurveyProgress.survey_subset_outlook _ member) with before | visited
  · cases before
  · exact visited

/-- A record without a failure is the outcome of classifying an entry that a walk came upon. -/
theorem classified_of_mem_records {roots : List String} {record : Record}
    (member : record ∈ (survey world exclusion probes roots).records) :
    ∃ path, .entry path ∈ visitsBelow world exclusion roots ∧
      classify world .standard probes path.text = .ok record := by
  unfold Survey.records at member
  obtain ⟨observation, kept, rfl⟩ := List.mem_map.mp member
  obtain ⟨observed, succeeded⟩ := List.mem_filter.mp kept
  obtain ⟨visit, visited, rfl⟩ := mem_observations observed
  cases visit with
  | unlistable path error => cases succeeded
  | entry path =>
    refine ⟨path, visited, ?_⟩
    simp only [Visit.observe, observePath] at succeeded ⊢
    cases classified : classify world .standard probes path.text with
    | ok record => rfl
    | error failure =>
      rw [classified] at succeeded
      cases succeeded

/-- What a survey reports without a failure is coherent, and about a path without a NUL. -/
theorem mem_records {roots : List String} {record : Record}
    (member : record ∈ (survey world exclusion probes roots).records) :
    record.Coherent ∧ NulFree record.path := by
  obtain ⟨path, _, classified⟩ := classified_of_mem_records member
  exact classify_ok classified

/-- No record of a survey is a directory's. -/
theorem directory_of_mem_records (named : world.disk.Names EntryName) {roots : List String}
    {record : Record} (member : record ∈ (survey world exclusion probes roots).records) :
    record.directory = false := by
  obtain ⟨path, visited, classified⟩ := classified_of_mem_records member
  obtain ⟨root, _, onWalk⟩ := List.mem_flatMap.mp visited
  have onTour := (walk_begins world exclusion (.ofText root)).first.subset onWalk
  obtain ⟨node, found, same⟩ := directory_of_classify classified
  rw [same]
  exact lookup_of_mem_tour named (Path.normal_ofText root) onTour found

/-- What a survey reports without a failure reads back as it was written. -/
theorem reread_of_mem_records {roots : List String} {record : Record}
    (member : record ∈ (survey world exclusion probes roots).records) : record.reread = record := by
  obtain ⟨path, _, classified⟩ := classified_of_mem_records member
  exact Record.reread_of_restorable
    (classify_restorable Lexicon.impliesKnown_standard classified)

end

end ShellSurvey
