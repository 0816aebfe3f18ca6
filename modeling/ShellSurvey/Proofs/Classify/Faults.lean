import ShellSurvey.Lexicon.Standard
import ShellSurvey.Proofs.Classify.Course

namespace ShellSurvey

/-- The world with one more failing request. -/
def World.strike (world : World) (stage : Stage) (asked : String) (error : FileError) : World :=
  { world with
    faults := fun other path =>
      if other = stage ∧ path = asked then some error else world.faults other path }

/-- The stages that a regular file reaches, given its whole record. -/
def Stage.reached (probes : Probes) (content : Bytes) (whole : Record) : Stage → Bool
  | .status => true
  | .head => !isBackupName whole.filename
  | .tail => !isBackupName whole.filename && probes.wantTail content
  | .scan => !isBackupName whole.filename && probes.wantScan whole
  | _ => false

/-- What the names tell, as a part of a whole record. -/
def Record.beforeHead (lexicon : Lexicon) (whole : Record) : Record where
  path := whole.path
  filename := whole.filename
  basename := whole.basename
  extension := whole.extension
  permissions := whole.permissions
  ownerExecutable := whole.ownerExecutable
  library := whole.library
  coreConfiguration := whole.coreConfiguration
  machineGenerated := whole.machineGenerated
  posix := (lexicon.filenameVerdict whole.filename).getD
    ((lexicon.extensionVerdict whole.extension).getD false)
  interpreter := ((lexicon.extensionInterpreter whole.extension).map .known).getD .unresolved

/-- The part of a whole record that is known when a stage fails. -/
def Record.knownAt (lexicon : Lexicon) (whole : Record) : Stage → Record
  | .status => { path := whole.path }
  | .head => whole.beforeHead lexicon
  | .tail => { whole.beforeHead lexicon with bom := whole.bom, lineEnding := whole.lineEnding }
  | .scan => { whole with containsCr := false }
  | _ => whole

/-- The kind of a failure at some stage. Only a missing path and a refused one are told apart, and
only when the status is asked for. -/
def FailureKind.expected (stage : Stage) (error : FileError) : FailureKind :=
  if stage = .status ∧ (error.errno? = some .notFound ∨ error.errno? = some .notADirectory) then
    .notFound
  else if stage = .status ∧
      (error.errno? = some .accessDenied ∨ error.errno? = some .notPermitted) then
    .denied
  else .unreadable

theorem World.faults_strike {world : World} {path : String} (calm : world.Calm path)
    (stage : Stage) (error : FileError) {other : Stage} (probing : other ∈ Stage.probing) :
    (world.strike stage (stage.request path) error).faults other (other.request path) =
      if other = stage then some error else none := by
  by_cases same : other = stage
  · rw [if_pos same, same]
    exact if_pos ⟨rfl, rfl⟩
  · rw [if_neg same, ← calm other probing]
    exact if_neg fun both => same both.1

theorem Failure.kind_expected (stage : Stage) (error : FileError) (record : Record) :
    Failure.kind ⟨stage, .failed error, record⟩ = .expected stage error := by
  cases stage with
  | status =>
    cases error with
    | system errno path => cases errno <;> rfl
    | other text => rfl
  | _ => rfl

theorem Record.beforeHead_ofEntry (lexicon : Lexicon) (path : String) (mode : Nat) :
    (Record.ofEntry lexicon path mode).beforeHead lexicon = Record.ofEntry lexicon path mode := by
  unfold ofEntry
  rw [implyInterpreter_eq]
  simp only [beforeHead, judgeName, ofName, Option.getD_or]

theorem Record.settle_frame (lexicon : Lexicon) (probes : Probes) (content : Bytes)
    (opened : Record) :
    ∃ finalEol shebang interpreter flags posix bash ksh altShellScript,
      opened.settle lexicon probes content =
        { opened.seeHead lexicon content with
          finalEol := finalEol
          shebang := shebang
          interpreter := interpreter
          interpreterFlags := flags
          posix := posix
          bash := bash
          ksh := ksh
          altShellScript := altShellScript } := by
  obtain ⟨shebang, interpreter, flags, posix, bash, ksh, altShellScript, framed⟩ :=
    Record.conclude_frame lexicon content ((opened.seeHead lexicon content).seeTail probes content)
  rw [settle, framed]
  unfold seeTail
  split <;> exact ⟨_, _, _, _, _, _, _, _, rfl⟩

theorem Record.seeAll_frame (probes : Probes) (content : Bytes) (settled : Record) :
    ∃ containsCr, settled.seeAll probes content = { settled with containsCr := containsCr } := by
  unfold seeAll
  split <;> exact ⟨_, rfl⟩

/-- A whole record tells what was known at each stage, if all that was known when the file was opened
came from the names. -/
theorem Record.knownAt_whole {lexicon : Lexicon} {opened : Record}
    (named : opened.beforeHead lexicon = opened) (probes : Probes) (content : Bytes) :
    let settled := opened.settle lexicon probes content
    let whole := settled.seeAll probes content
    whole.knownAt lexicon .status = { path := opened.path } ∧
    whole.knownAt lexicon .head = opened ∧
    whole.knownAt lexicon .tail = opened.seeHead lexicon content ∧
    whole.knownAt lexicon .scan = settled := by
  obtain ⟨_, _, _, _, _, _, _, _, settledAs⟩ := settle_frame lexicon probes content opened
  obtain ⟨_, wholeAs⟩ := seeAll_frame probes content (opened.settle lexicon probes content)
  have unscanned : opened.containsCr = false := by
    rw [← named]
    rfl
  dsimp only
  rw [wholeAs, settledAs]
  refine ⟨rfl, named, congrArg (seeHead lexicon content) named, ?_⟩
  simp only [knownAt, seeHead, unscanned]

theorem Record.seeAll_asked (probes asked : Probes) (content : Bytes) (settled : Record) :
    asked.wantScan (settled.seeAll probes content) = asked.wantScan settled := by
  obtain ⟨_, framed⟩ := seeAll_frame probes content settled
  rw [framed]
  rfl

theorem Record.filename_whole (lexicon : Lexicon) (probes : Probes) (content : Bytes)
    (opened : Record) :
    ((opened.settle lexicon probes content).seeAll probes content).filename = opened.filename := by
  obtain ⟨_, _, _, _, _, _, _, _, settledAs⟩ := settle_frame lexicon probes content opened
  obtain ⟨_, wholeAs⟩ := seeAll_frame probes content (opened.settle lexicon probes content)
  rw [wholeAs, settledAs]
  rfl

/-- The course of an opened file breaks off where it is struck, if it comes there. -/
theorem course_strike {faults : Stage → Option FileError} {stage : Stage} {error : FileError}
    (struck : ∀ other ∈ Stage.probing, faults other = if other = stage then some error else none)
    {lexicon : Lexicon} {opened : Record} (named : opened.beforeHead lexicon = opened)
    (noBackup : isBackupName opened.filename = false) (probes : Probes) (content : Bytes) :
    let whole := (opened.settle lexicon probes content).seeAll probes content
    failAt (faults .status) .status { path := opened.path }
        (course faults lexicon probes content opened) =
      if stage.reached probes content whole then
        .error ⟨stage, .failed error, whole.knownAt lexicon stage⟩
      else .ok whole := by
  intro whole
  obtain ⟨status, head, tail, scan⟩ := Record.knownAt_whole named probes content
  have name : isBackupName whole.filename = false := by rwa [Record.filename_whole]
  have asked : probes.wantScan whole = probes.wantScan (opened.settle lexicon probes content) :=
    Record.seeAll_asked probes probes content _
  rw [course, struck .status (by decide), struck .head (by decide), struck .tail (by decide),
    struck .scan (by decide)]
  cases stage with
  | status =>
    rw [Stage.reached, status]
    rfl
  | head =>
    rw [Stage.reached, name, head]
    rfl
  | tail =>
    rw [Stage.reached, name, tail]
    cases probes.wantTail content <;> simp [failAt, whole]
  | scan =>
    rw [Stage.reached, name, asked, scan]
    cases probes.wantScan (opened.settle lexicon probes content) <;> simp [failAt, whole]
  | kind | listing | content => simp [failAt, whole, Stage.reached]

/-- If a request fails about a regular file, the classification ends with the part of the whole
record that was known by then, unless the request is never made. -/
theorem classify_strike {world : World} {path : String} {content : Bytes} {mode : Nat}
    (file : world.disk.lookup false path = .ok (.file content mode)) (calm : world.Calm path)
    (lexicon : Lexicon) (probes : Probes) (stage : Stage) (error : FileError) :
    ∃ whole, classify world lexicon probes path = .ok whole ∧
      classify (world.strike stage (stage.request path) error) lexicon probes path =
        (if stage.reached probes content whole then
          .error ⟨stage, .failed error, whole.knownAt lexicon stage⟩
        else .ok whole) ∧
      Failure.kind ⟨stage, .failed error, whole.knownAt lexicon stage⟩ = .expected stage error := by
  have still : (world.strike stage (stage.request path) error).disk.lookup false path =
    .ok (.file content mode) := file
  have struck (other : Stage) (probing : other ∈ Stage.probing) :=
    World.faults_strike calm stage error probing
  cases backup : isBackupName (fileNameOf path) with
  | true =>
    -- Of a backup nothing is asked but its status.
    have settled : Record.ofStatus? lexicon path (.file content mode) =
      some (Record.ofName path mode) := if_pos backup
    have status : world.faults .status path = none := calm .status (by decide)
    refine ⟨Record.ofName path mode, ?_, ?_, Failure.kind_expected _ _ _⟩
    · rw [classify_settled file settled, status]
      rfl
    · have name : isBackupName (Record.ofName path mode).filename = true := backup
      have first : (world.strike stage (stage.request path) error).faults .status path = _ :=
        struck .status (by decide)
      rw [classify_settled still settled, first]
      cases stage with
      | status => rfl
      | head | tail | scan =>
        rw [Stage.reached, name]
        rfl
      | kind | listing | content => rfl
  | false =>
    refine ⟨_, classify_calm file backup calm, ?_, Failure.kind_expected _ _ _⟩
    have named := Record.beforeHead_ofEntry lexicon path mode
    have noBackup : isBackupName (Record.ofEntry lexicon path mode).filename = false := by
      rwa [Record.filename_ofEntry]
    have broken := course_strike struck named noBackup probes content
    rw [Record.path_ofEntry] at broken
    rw [classify_file still backup]
    exact broken

theorem classify_strike_scan :
    let world := World.ofDisk scriptDisk
    let struck := world.strike .scan "deploy.sh" (.system .inputOutput "deploy.sh")
    let probes : Probes := { carriageReturns := true }
    ∃ whole, classify world .standard probes "deploy.sh" = .ok whole ∧
      classify struck .standard probes "deploy.sh" =
        (if probes.wantScan whole && !isBackupName whole.filename then
          .error ⟨.scan, .failed (.system .inputOutput "deploy.sh"),
            { whole with containsCr := false }⟩
        else .ok whole) := by
  have asked : Stage.scan.request "deploy.sh" = "deploy.sh" := by decide
  obtain ⟨whole, complete, broken, _⟩ := classify_strike scriptDisk_lookup scriptDisk_calm
    .standard { carriageReturns := true } .scan (.system .inputOutput "deploy.sh")
  rw [asked] at broken
  refine ⟨whole, complete, broken.trans ?_⟩
  rw [Stage.reached, Bool.and_comm]
  rfl

end ShellSurvey
