import ShellSurvey.Classify
import ShellSurvey.Proofs.Disk.NormalForm
import ShellSurvey.Proofs.Script.Announcement

namespace ShellSurvey

/-- What the names of a regular file tell, and its extension about the interpreter. -/
def Record.ofEntry (lexicon : Lexicon) (path : String) (mode : Nat) : Record :=
  ((Record.ofName path mode).judgeName lexicon).implyInterpreter lexicon

/-- What the first line of a content adds at once. -/
def Record.seeHead (lexicon : Lexicon) (content : Bytes) (record : Record) : Record :=
  let first := FirstLine.ofContent lexicon content
  { record with bom := first.marked, lineEnding := first.ending }

/-- The end of a file is looked at if that is asked for and there is one. -/
def Probes.wantTail (probes : Probes) (content : Bytes) : Bool :=
  probes.finalEol && content.length != 0

def Record.seeTail (probes : Probes) (content : Bytes) (record : Record) : Record :=
  if probes.wantTail content then { record with finalEol := .ofContent content content.length }
  else record

/-- What the first line of a content settles. -/
def Record.conclude (lexicon : Lexicon) (content : Bytes) (record : Record) : Record :=
  (record.heed lexicon (.ofLine (FirstLine.ofContent lexicon content).line)).assignFamily lexicon

/-- Carriage returns are looked for in scripts if that is asked for. -/
def Probes.wantScan (probes : Probes) (record : Record) : Bool :=
  probes.carriageReturns && (record.posix || record.altShellScript)

def Record.seeAll (probes : Probes) (content : Bytes) (record : Record) : Record :=
  if probes.wantScan record then { record with containsCr := holdsCr content } else record

/-- A stage that fails ends the course with what is known by then. -/
def failAt (fault : Option FileError) (stage : Stage) (record : Record)
    (next : Except Failure Record) : Except Failure Record :=
  match fault with
  | some error => .error ⟨stage, .failed error, record⟩
  | none => next

theorem failAt_eq_ok {fault : Option FileError} {stage : Stage} {known record : Record}
    {next : Except Failure Record} (ended : failAt fault stage known next = .ok record) :
    next = .ok record := by
  cases fault with
  | some error => cases ended
  | none => exact ended

/-- What is settled about a file once its first line is read and its end looked at. -/
def Record.settle (lexicon : Lexicon) (probes : Probes) (content : Bytes) (opened : Record) :
    Record :=
  ((opened.seeHead lexicon content).seeTail probes content).conclude lexicon content

/-- The stages at which a regular file is open, given the failures that strike them. -/
def course (faults : Stage → Option FileError) (lexicon : Lexicon) (probes : Probes)
    (content : Bytes) (opened : Record) : Except Failure Record :=
  let settled := opened.settle lexicon probes content
  failAt (faults .head) .head opened
    (failAt (if probes.wantTail content then faults .tail else none) .tail
        (opened.seeHead lexicon content)
      (failAt (if probes.wantScan settled then faults .scan else none) .scan settled
        (.ok (settled.seeAll probes content))))

theorem World.read_eq {world : World} {path : String} {content : Bytes}
    (readable : world.disk.content path = .ok content) (stage : Stage) (record : Record)
    (next : Bytes → Except Failure Record) :
    ((world.read stage path path).mapError (Failure.mk stage · record) >>= next) =
      failAt (world.faults stage path) stage record (next content) := by
  rw [World.read, readable]
  cases world.faults stage path <;> rfl

/-- A file that is not looked through is done. -/
theorem failAt_scan (fault : Option FileError) (probes : Probes) (content : Bytes)
    (settled : Record) :
    failAt (if probes.wantScan settled then fault else none) .scan settled
        (.ok (settled.seeAll probes content)) =
      if probes.wantScan settled then
        failAt fault .scan settled (.ok { settled with containsCr := holdsCr content })
      else .ok settled := by
  unfold Record.seeAll
  cases probes.wantScan settled <;> rfl

theorem Record.inspect_eq {world : World} {lexicon : Lexicon} {probes : Probes} {content : Bytes}
    {record : Record}
    (readable : world.disk.content (Path.ofText record.path).text = .ok content) :
    record.inspect world lexicon probes content.length =
      course (fun stage => world.faults stage (Path.ofText record.path).text) lexicon probes content
        (record.implyInterpreter lexicon) := by
  unfold inspect course settle
  simp only [World.read_eq readable, failAt_scan]
  refine congrArg (failAt _ .head _) ?_
  -- Whether the end is looked at decides what the first line is added to.
  by_cases asked : (probes.finalEol && content.length != 0) = true
  · have wanted : probes.wantTail content = true := asked
    rw [if_pos asked, if_pos wanted, seeTail, if_pos wanted]
    rfl
  · have unwanted : ¬ probes.wantTail content = true := asked
    rw [if_neg asked, if_neg unwanted, seeTail, if_neg unwanted]
    rfl

/-- A regular file under a name that is not a backup's goes through the whole course. -/
theorem classify_file {world : World} {lexicon : Lexicon} {probes : Probes} {path : String}
    {content : Bytes} {mode : Nat}
    (file : world.disk.lookup false path = .ok (.file content mode))
    (noBackup : isBackupName (fileNameOf path) = false) :
    classify world lexicon probes path =
      failAt (world.faults .status path) .status { path := path }
        (course (fun stage => world.faults stage (Path.ofText path).text) lexicon probes content
          (Record.ofEntry lexicon path mode)) := by
  have readable : world.disk.content (Path.ofText path).text = .ok content :=
    Disk.content_normalForm file
  unfold classify World.status
  cases world.faults .status path with
  | some error => rfl
  | none =>
    simp only [file]
    have name : (Record.ofName path (Node.file content mode).mode).filename = fileNameOf path := rfl
    rw [name, noBackup, if_neg Bool.false_ne_true]
    exact Record.inspect_eq readable

/-- What settles an entry that is never opened. -/
def Record.ofStatus? (lexicon : Lexicon) (path : String) : Node → Option Record
  | .directory _ => some { path := path, directory := true }
  | node =>
    let named := Record.ofName path node.mode
    if isBackupName (fileNameOf path) then some named
    else
      match node with
      | .link _ => some { named.judgeName lexicon with symlink := true }
      | .pipe _ => some { named.judgeName lexicon with posix := false }
      | _ => none

/-- What is settled by its status is recorded in one of four ways. -/
theorem Record.ofStatus?_cases {lexicon : Lexicon} {path : String} {node : Node} {record : Record}
    (settled : Record.ofStatus? lexicon path node = some record) :
    let named := Record.ofName path node.mode
    record = { path := path, directory := true } ∨ record = named ∨
      record = { named.judgeName lexicon with symlink := true } ∨
      record = { named.judgeName lexicon with posix := false } := by
  by_cases backup : isBackupName (fileNameOf path) = true
  · cases node with
    | directory entries => exact Or.inl (Option.some.inj settled).symm
    | file content mode | pipe mode | link target =>
      exact Or.inr (Or.inl (Option.some.inj ((if_pos backup).symm.trans settled)).symm)
  · cases node with
    | directory entries => exact Or.inl (Option.some.inj settled).symm
    | file content mode => cases (if_neg backup).symm.trans settled
    | link target =>
      have linked := Option.some.inj ((if_neg backup).symm.trans settled)
      exact Or.inr (Or.inr (Or.inl linked.symm))
    | pipe mode =>
      have special := Option.some.inj ((if_neg backup).symm.trans settled)
      exact Or.inr (Or.inr (Or.inr special.symm))

theorem classify_settled {world : World} {lexicon : Lexicon} {probes : Probes} {path : String}
    {node : Node} {record : Record} (entry : world.disk.lookup false path = .ok node)
    (settled : Record.ofStatus? lexicon path node = some record) :
    classify world lexicon probes path =
      failAt (world.faults .status path) .status { path := path } (.ok record) := by
  unfold classify World.status
  cases world.faults .status path with
  | some error => rfl
  | none =>
    simp only [entry]
    by_cases backup : isBackupName (fileNameOf path) = true
    · cases node with
      | directory entries => exact congrArg Except.ok (Option.some.inj settled)
      | _ =>
        have named := Option.some.inj ((if_pos backup).symm.trans settled)
        exact (if_pos backup).trans (congrArg Except.ok named)
    · cases node with
      | directory entries => exact congrArg Except.ok (Option.some.inj settled)
      | file content mode => cases (if_neg backup).symm.trans settled
      | _ =>
        have judged := Option.some.inj ((if_neg backup).symm.trans settled)
        exact (if_neg backup).trans (congrArg Except.ok judged)

/-- Only a regular file that is no backup is opened. -/
theorem Record.ofStatus?_eq_none {lexicon : Lexicon} {path : String} {node : Node}
    (unsettled : Record.ofStatus? lexicon path node = none) :
    isBackupName (fileNameOf path) = false ∧ ∃ content mode, node = .file content mode := by
  cases backup : isBackupName (fileNameOf path) with
  | true =>
    cases node with
    | directory entries => cases unsettled
    | _ => cases (if_pos backup).symm.trans unsettled
  | false =>
    have noBackup := Bool.eq_false_iff.mp backup
    cases node with
    | directory entries => cases unsettled
    | file content mode => exact ⟨rfl, content, mode, rfl⟩
    | _ => cases (if_neg noBackup).symm.trans unsettled

/-- The name under which a request is made. An open file goes by the normal form of its path. -/
def Stage.request (path : String) : Stage → String
  | .status => path
  | _ => (Path.ofText path).text

/-- The stages at which a classification makes its requests, in their order. -/
def Stage.probing : List Stage := [.status, .head, .tail, .scan]

/-- No request fails that a classification makes. -/
def World.Calm (world : World) (path : String) : Prop :=
  ∀ stage ∈ Stage.probing, world.faults stage (stage.request path) = none

/-- Without failures everything is seen. -/
theorem classify_calm {world : World} {lexicon : Lexicon} {probes : Probes} {path : String}
    {content : Bytes} {mode : Nat}
    (file : world.disk.lookup false path = .ok (.file content mode))
    (noBackup : isBackupName (fileNameOf path) = false) (calm : world.Calm path) :
    classify world lexicon probes path =
      .ok (((Record.ofEntry lexicon path mode).settle lexicon probes content).seeAll probes
        content) := by
  have status : world.faults .status path = none := calm .status (by decide)
  have head : world.faults .head (Path.ofText path).text = none := calm .head (by decide)
  have tail : world.faults .tail (Path.ofText path).text = none := calm .tail (by decide)
  have scan : world.faults .scan (Path.ofText path).text = none := calm .scan (by decide)
  rw [classify_file file noBackup, status, failAt, course]
  simp only [head, tail, scan, ite_self, failAt]

/-- Without failures a regular file always gets its record. -/
theorem classify_completes {world : World} {path : String} {content : Bytes} {mode : Nat}
    (file : world.disk.lookup false path = .ok (.file content mode)) (calm : world.Calm path)
    (lexicon : Lexicon) (probes : Probes) :
    ∃ record, classify world lexicon probes path = .ok record := by
  cases backup : isBackupName (fileNameOf path) with
  | true =>
    have settled : Record.ofStatus? lexicon path (.file content mode) =
      some (Record.ofName path mode) := if_pos backup
    have status : world.faults .status path = none := calm .status (by decide)
    rw [classify_settled file settled, status]
    exact ⟨_, rfl⟩
  | false => exact ⟨_, classify_calm file backup calm⟩

theorem Record.implyInterpreter_eq (lexicon : Lexicon) (record : Record) :
    record.implyInterpreter lexicon =
      { record with interpreter := ((lexicon.extensionInterpreter record.extension).map
          .known).getD record.interpreter } := by
  unfold implyInterpreter
  cases lexicon.extensionInterpreter record.extension <;> rfl

theorem Record.path_ofEntry (lexicon : Lexicon) (path : String) (mode : Nat) :
    (Record.ofEntry lexicon path mode).path = path := by
  rw [ofEntry, implyInterpreter_eq]
  rfl

theorem Record.filename_ofEntry (lexicon : Lexicon) (path : String) (mode : Nat) :
    (Record.ofEntry lexicon path mode).filename = fileNameOf path := by
  rw [ofEntry, implyInterpreter_eq]
  rfl

theorem Record.extension_ofEntry (lexicon : Lexicon) (path : String) (mode : Nat) :
    (Record.ofEntry lexicon path mode).extension = extensionOf (fileNameOf path) := by
  rw [ofEntry, implyInterpreter_eq]
  simp only [judgeName, ofName]

/-- A line with the signs of a shebang settles the interpreter; another one leaves it to the names. -/
theorem Record.heed_cases (lexicon : Lexicon) (line : Bytes) (record : Record) :
    (∃ read, [0x23, 0x21] <+: line ∧
      Shebang.parse? lexicon (lexicon.extensionInterpreter record.extension) (lineText line) =
        some read ∧
      record.heed lexicon (.ofLine line) =
        { record with
          shebang := lineText line
          interpreter := read.interpreter
          interpreterFlags := read.flags
          posix := lexicon.readsPosix read.interpreter.name && record.namesAllowPosix lexicon }) ∨
    (¬ [0x23, 0x21] <+: line ∧
      record.heed lexicon (.ofLine line) =
        { record with
          shebang := (Announcement.ofLine line).text
          interpreter :=
            if record.posix && (lexicon.extensionInterpreter record.extension).isNone then
              .genericPosix
            else record.interpreter }) := by
  by_cases shebang : [0x23, 0x21] <+: line
  · obtain ⟨read, parsed⟩ := Shebang.parse?_lineText lexicon
      (lexicon.extensionInterpreter record.extension) shebang
    refine Or.inl ⟨read, shebang, parsed, ?_⟩
    rw [Announcement.ofLine_shebang shebang]
    simp only [heed, Announcement.parseable, Announcement.text, parsed, if_true]
    rfl
  · refine Or.inr ⟨shebang, ?_⟩
    unfold heed
    rw [Announcement.parseable_ofLine shebang]
    simp only [Bool.false_eq_true, if_false]
    split <;> rfl

/-- The first line settles the class and touches nothing else. -/
theorem Record.conclude_frame (lexicon : Lexicon) (content : Bytes) (record : Record) :
    ∃ shebang interpreter flags posix bash ksh altShellScript,
      record.conclude lexicon content =
        { record with
          shebang := shebang
          interpreter := interpreter
          interpreterFlags := flags
          posix := posix
          bash := bash
          ksh := ksh
          altShellScript := altShellScript } := by
  unfold conclude
  rcases record.heed_cases lexicon (FirstLine.ofContent lexicon content).line with
    ⟨_, _, _, heeded⟩ | ⟨_, heeded⟩ <;> rw [heeded] <;> exact ⟨_, _, _, _, _, _, _, rfl⟩

/-- A disk with nothing but a script on it. -/
def scriptDisk : Disk where
  entries := [("deploy.sh",
    .file [0x23, 0x21, 0x2F, 0x62, 0x69, 0x6E, 0x2F, 0x73, 0x68, 0x0D, 0x0A] 0o755)]
  ordered := ⟨fun _ member => absurd member List.not_mem_nil, trivial, trivial⟩

theorem scriptDisk_lookup : (World.ofDisk scriptDisk).disk.lookup false "deploy.sh" =
    .ok (.file [0x23, 0x21, 0x2F, 0x62, 0x69, 0x6E, 0x2F, 0x73, 0x68, 0x0D, 0x0A] 0o755) := by
  refine Disk.lookup_name (by simp [World.ofDisk, scriptDisk]) ?_ ?_ ?_ ?_ ?_ ?_ <;> decide

theorem scriptDisk_calm : (World.ofDisk scriptDisk).Calm "deploy.sh" := fun _ _ => rfl

end ShellSurvey
