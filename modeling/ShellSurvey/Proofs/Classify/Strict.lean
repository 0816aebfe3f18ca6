import ShellSurvey.Proofs.Classify.Course

namespace ShellSurvey

/-- What stops a guarded classification. -/
inductive Mishap where
  | failed (failure : Failure)
  | nulInPath
  | noShebang (text : String)
  | emptyFile (path : String)
  deriving DecidableEq, Repr

def Refusal.mishap (stage : Stage) (record : Record) : Refusal → Mishap
  | .failed error => .failed ⟨stage, .failed error, record⟩
  | .nulInPath => .nulInPath

def Shebang.read (lexicon : Lexicon) (fallback : Option String) (text : String) :
    Except Mishap Shebang :=
  match Shebang.parse? lexicon fallback text with
  | some shebang => .ok shebang
  | none => .error (.noShebang text)

/-- The end of a file of some size, under the name of an open file. -/
def World.fileEnd (world : World) (path : String) (size : Nat) (record : Record) :
    Except Mishap FinalEol := do
  if size = 0 then .error (.emptyFile path)
  let content ← (world.read .tail path path).mapError (Refusal.mishap .tail record)
  pure (.ofContent content size)

def Record.heedStrictly (lexicon : Lexicon) (announcement : Announcement) (record : Record) :
    Except Mishap Record := do
  let implied := lexicon.extensionInterpreter record.extension
  let record := { record with shebang := announcement.text }
  if announcement.parseable then
    let shebang ← Shebang.read lexicon implied announcement.text
    pure { record with
      interpreter := shebang.interpreter
      interpreterFlags := shebang.flags
      posix := lexicon.readsPosix shebang.interpreter.name && record.namesAllowPosix lexicon }
  else if record.posix && implied.isNone then pure { record with interpreter := .genericPosix }
  else pure record

def Record.inspectStrictly (world : World) (lexicon : Lexicon) (probes : Probes) (size : Nat)
    (record : Record) : Except Mishap Record := do
  let path := (Path.ofText record.path).text
  let read (stage : Stage) (record : Record) : Except Mishap Bytes :=
    (world.read stage path path).mapError (Refusal.mishap stage record)
  let record := record.implyInterpreter lexicon
  let first := FirstLine.ofContent lexicon (← read .head record)
  let record := { record with bom := first.marked, lineEnding := first.ending }
  let record ←
    if probes.finalEol && size != 0 then do
      let finalEol ← world.fileEnd path size record
      pure { record with finalEol := finalEol }
    else pure record
  let record := (← record.heedStrictly lexicon (.ofLine first.line)).assignFamily lexicon
  if probes.carriageReturns && (record.posix || record.altShellScript) then do
    let content ← read .scan record
    pure { record with containsCr := holdsCr content }
  else pure record

def classifyStrictly (world : World) (lexicon : Lexicon) (probes : Probes) (path : String) :
    Except Mishap Record :=
  match world.status path with
  | .error refusal => .error (refusal.mishap .status { path := path })
  | .ok (.directory _) => .ok { path := path, directory := true }
  | .ok node =>
    let named := Record.ofName path node.mode
    if isBackupName named.filename then .ok named
    else
      let judged := named.judgeName lexicon
      match node with
      | .link _ => .ok { judged with symlink := true }
      | .file content _ => judged.inspectStrictly world lexicon probes content.length
      | _ => .ok { judged with posix := false }

/-- A line that is read as a shebang is one. -/
theorem Record.heedStrictly_ofLine (lexicon : Lexicon) (line : Bytes) (record : Record) :
    record.heedStrictly lexicon (.ofLine line) = .ok (record.heed lexicon (.ofLine line)) := by
  rcases record.heed_cases lexicon line with
    ⟨read, shebang, parsed, heeded⟩ | ⟨noShebang, heeded⟩
  · rw [heeded, Announcement.ofLine_shebang shebang, heedStrictly, Shebang.read,
      Announcement.text, parsed]
    rfl
  · rw [heeded]
    unfold heedStrictly
    rw [Announcement.parseable_ofLine noShebang]
    simp only [Bool.false_eq_true, if_false]
    split <;> rfl

theorem World.read_strictly {world : World} {path : String} {content : Bytes}
    (readable : world.disk.content path = .ok content) (stage : Stage) (record : Record)
    {next : Bytes → Except Mishap Record} {later : Except Failure Record}
    (same : next content = later.mapError .failed) :
    ((world.read stage path path).mapError (Refusal.mishap stage record) >>= next) =
      (failAt (world.faults stage path) stage record later).mapError .failed := by
  rw [World.read, readable]
  cases world.faults stage path with
  | some error => rfl
  | none => exact same

/-- A file that has an end can be asked for it. -/
theorem World.fileEnd_strictly {world : World} {path : String} {content : Bytes}
    (readable : world.disk.content path = .ok content) (nonempty : content.length ≠ 0)
    (record : Record) {next : FinalEol → Except Mishap Record} {later : Except Failure Record}
    (same : next (.ofContent content content.length) = later.mapError .failed) :
    (world.fileEnd path content.length record >>= next) =
      (failAt (world.faults .tail path) .tail record later).mapError .failed := by
  rw [World.fileEnd, if_neg nonempty, World.read, readable]
  cases world.faults .tail path with
  | some error => rfl
  | none => exact same

theorem Record.inspectStrictly_eq {world : World} {lexicon : Lexicon} {probes : Probes}
    {content : Bytes} {record : Record}
    (readable : world.disk.content (Path.ofText record.path).text = .ok content) :
    record.inspectStrictly world lexicon probes content.length =
      (record.inspect world lexicon probes content.length).mapError .failed := by
  rw [Record.inspect_eq readable]
  unfold inspectStrictly course
  refine World.read_strictly readable .head _ ?_
  -- What follows once the end has been looked at, or not.
  have scanned (seen : Record) :
      (do
        let settled := (← seen.heedStrictly lexicon
          (.ofLine (FirstLine.ofContent lexicon content).line)).assignFamily lexicon
        if probes.carriageReturns && (settled.posix || settled.altShellScript) then do
          let content ← (world.read .scan (Path.ofText record.path).text
            (Path.ofText record.path).text).mapError (Refusal.mishap .scan settled)
          pure { settled with containsCr := holdsCr content }
        else pure settled) =
      (failAt (if probes.wantScan (seen.conclude lexicon content) then
          world.faults .scan (Path.ofText record.path).text else none) .scan
        (seen.conclude lexicon content)
        (.ok ((seen.conclude lexicon content).seeAll probes content))).mapError .failed := by
    rw [failAt_scan, heedStrictly_ofLine]
    by_cases asked : probes.wantScan (seen.conclude lexicon content) = true
    · rw [if_pos asked]
      refine (if_pos asked).trans ?_
      exact World.read_strictly readable .scan _ rfl
    · rw [if_neg asked]
      exact if_neg asked
  by_cases asked : (probes.finalEol && content.length != 0) = true
  · have wanted : probes.wantTail content = true := asked
    have nonempty : content.length ≠ 0 := bne_iff_ne.mp ((Bool.and_eq_true_iff.mp asked).2)
    rw [if_pos asked, if_pos wanted, settle, seeTail, if_pos wanted]
    exact World.fileEnd_strictly readable nonempty _ (scanned _)
  · have unwanted : ¬ probes.wantTail content = true := asked
    rw [if_neg asked, if_neg unwanted, settle, seeTail, if_neg unwanted]
    exact scanned _

theorem World.lookup_of_status {world : World} {path : String} {node : Node}
    (known : world.status path = .ok node) : world.disk.lookup false path = .ok node := by
  unfold status at known
  split at known
  · cases known
  · exact known

/-- A path without a NUL is refused by a failure of the file system only. -/
theorem World.status_refused {world : World} {path : String} {refusal : Refusal}
    (noNul : holdsNul path = false) (refused : world.status path = .error refusal) :
    ∃ error, refusal = .failed error := by
  unfold status at refused
  split at refused
  · next error _ =>
    cases refused
    exact ⟨error, rfl⟩
  · rw [Disk.lookup, noNul, if_neg Bool.false_ne_true] at refused
    split at refused
    · cases refused
    · cases refused
      exact ⟨_, rfl⟩

/-- The guards change nothing: a line is read as a shebang only if it is one, and only a file that
has an end is asked for it. -/
theorem classifyStrictly_eq (world : World) (lexicon : Lexicon) (probes : Probes) {path : String}
    (noNul : holdsNul path = false) :
    classifyStrictly world lexicon probes path =
      (classify world lexicon probes path).mapError .failed := by
  unfold classifyStrictly classify
  cases status : world.status path with
  | error refusal =>
    obtain ⟨error, rfl⟩ := World.status_refused noNul status
    rfl
  | ok node =>
    cases node with
    | directory entries => rfl
    | link target =>
      dsimp only
      split <;> rfl
    | pipe mode =>
      dsimp only
      split <;> rfl
    | file content mode =>
      dsimp only
      split
      · rfl
      · have found := World.lookup_of_status status
        exact Record.inspectStrictly_eq (Disk.content_normalForm found)

end ShellSurvey
