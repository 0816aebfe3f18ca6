import ShellSurvey.Record.Basic
import ShellSurvey.Script.FirstLine
import ShellSurvey.Script.Shebang
import ShellSurvey.World

namespace ShellSurvey

/-- Probes that cost another look at the file and are made on request only. -/
structure Probes where
  finalEol : Bool := false
  carriageReturns : Bool := false
  deriving DecidableEq, Repr

/-- A failed request, with the record as far as it was known. -/
structure Failure where
  stage : Stage
  cause : Refusal
  record : Record
  deriving DecidableEq, Repr

inductive FailureKind where
  | unusablePath
  | notFound
  | denied
  | unreadable
  deriving DecidableEq, Repr

/-- The kind of a failure to learn the status of a path. -/
def Errno.statusKind : Errno → FailureKind
  | .notFound => .notFound
  | .notADirectory => .notFound
  | .accessDenied => .denied
  | .notPermitted => .denied
  | _ => .unreadable

def Failure.kind (failure : Failure) : FailureKind :=
  match failure.cause, failure.stage with
  | .nulInPath, _ => .unusablePath
  | .failed error, .status => (error.errno?.map Errno.statusKind).getD .unreadable
  | .failed _, _ => .unreadable

def Failure.message (failure : Failure) : String :=
  let path := failure.record.path
  let cause := failure.cause.message
  match failure.kind with
  | .unusablePath => cause
  | .notFound => "No such file: " ++ path
  | .denied => "Permission denied: " ++ path
  | .unreadable =>
    match failure.stage with
    | .status => "Could not stat " ++ path ++ ": " ++ cause
    | .listing => "Could not list " ++ path ++ ": " ++ cause
    | .tail => "Could not read the end of " ++ path ++ ": " ++ cause
    | .scan => "Could not scan " ++ path ++ " for carriage returns: " ++ cause
    | _ => "Could not read " ++ path ++ ": " ++ cause

/-- The permissions that a link shows. -/
def linkMode : Nat := 0o777

def Node.mode : Node → Nat
  | .file _ mode => mode
  | .pipe mode => mode
  | .link _ => linkMode
  | .directory _ => 0

def isBackupName (filename : String) : Bool := filename.toList.getLast? == some '~'

/-- What a path and its mode tell. -/
def Record.ofName (path : String) (mode : Nat) : Record :=
  let filename := fileNameOf path
  let permissions := mode % 512
  { path := path
    filename := filename
    basename := filename
    extension := extensionOf filename
    permissions := permissions
    ownerExecutable := hasBits permissions ownerExecute }

/-- What a lexicon adds from the names alone. A verdict on the file name wins over one on the
extension. -/
def Record.judgeName (lexicon : Lexicon) (record : Record) : Record :=
  let config := lexicon.isConfig record.extension record.filename
  { record with
    machineGenerated := lexicon.isMachineMade record.extension
    posix := ((lexicon.filenameVerdict record.filename).or
      (lexicon.extensionVerdict record.extension)).getD false
    coreConfiguration := config
    library := (config || record.extension != "") && !record.ownerExecutable }

/-- The interpreter that the extension implies. -/
def Record.implyInterpreter (lexicon : Lexicon) (record : Record) : Record :=
  match lexicon.extensionInterpreter record.extension with
  | some name => { record with interpreter := .known name }
  | none => record

/-- No verdict on the names speaks against POSIX. -/
def Record.namesAllowPosix (lexicon : Lexicon) (record : Record) : Bool :=
  (lexicon.extensionVerdict record.extension).getD true &&
    (lexicon.filenameVerdict record.filename).getD true

/-- What the announcement on the first line adds. A shebang settles the interpreter; without one, a
POSIX name makes some shell of an interpreter that the extension does not imply. -/
def Record.heed (lexicon : Lexicon) (announcement : Announcement) (record : Record) : Record :=
  let implied := lexicon.extensionInterpreter record.extension
  let record := { record with shebang := announcement.text }
  let read : Option Shebang :=
    if announcement.parseable then Shebang.parse? lexicon implied announcement.text else none
  match read with
  | some shebang =>
    { record with
      interpreter := shebang.interpreter
      interpreterFlags := shebang.flags
      posix := lexicon.readsPosix shebang.interpreter.name && record.namesAllowPosix lexicon }
  | none =>
    if record.posix && implied.isNone then { record with interpreter := .genericPosix } else record

/-- The families that the interpreter, or else the names, put a script in. -/
def Record.assignFamily (lexicon : Lexicon) (record : Record) : Record :=
  let name := record.interpreterName
  { record with
    bash := lexicon.isFullBash name
    ksh := lexicon.isKornShell name
    altShellScript := !record.posix && lexicon.isAltShell name record.extension record.filename }

/-- The part of the classification that opens a regular file of a known size. -/
def Record.inspect (world : World) (lexicon : Lexicon) (probes : Probes) (size : Nat)
    (record : Record) : Except Failure Record := do
  let path := (Path.ofText record.path).text
  let read (stage : Stage) (record : Record) : Except Failure Bytes :=
    (world.read stage path path).mapError (Failure.mk stage · record)
  let record := record.implyInterpreter lexicon
  let first := FirstLine.ofContent lexicon (← read .head record)
  let record := { record with bom := first.marked, lineEnding := first.ending }
  let record ←
    if probes.finalEol && size != 0 then do
      let content ← read .tail record
      pure { record with finalEol := .ofContent content size }
    else pure record
  let record := (record.heed lexicon (.ofLine first.line)).assignFamily lexicon
  if probes.carriageReturns && (record.posix || record.altShellScript) then do
    let content ← read .scan record
    pure { record with containsCr := holdsCr content }
  else pure record

def classify (world : World) (lexicon : Lexicon) (probes : Probes) (path : String) :
    Except Failure Record :=
  match world.status path with
  | .error refusal => .error ⟨.status, refusal, { path := path }⟩
  | .ok (.directory _) => .ok { path := path, directory := true }
  | .ok node =>
    let named := Record.ofName path node.mode
    if isBackupName named.filename then .ok named
    else
      let judged := named.judgeName lexicon
      match node with
      | .link _ => .ok { judged with symlink := true }
      | .file content _ => judged.inspect world lexicon probes content.length
      | _ => .ok { judged with posix := false }

/-- Why a path was settled without a look inside, where that deserves a note. -/
inductive SkipNote where
  | backup (path : String)
  | special (path : String)
  deriving DecidableEq, Repr

def SkipNote.text : SkipNote → String
  | .backup path => "Skipping editor backup file " ++ path
  | .special path => "Skipping special file " ++ path

/-- The note that classifying a path leaves. -/
def skipNote (world : World) (path : String) : Option SkipNote :=
  match world.status path with
  | .ok (.directory _) => none
  | .ok node =>
    if isBackupName (fileNameOf path) then some (.backup path)
    else
      match node with
      | .pipe _ => some (.special path)
      | _ => none
  | .error _ => none

/-- A record, complete or not, and the failure that cut it short. -/
structure Sighting where
  record : Record
  failure : Option Failure
  deriving DecidableEq, Repr

def Sighting.ofResult : Except Failure Record → Sighting
  | .ok record => ⟨record, none⟩
  | .error failure => ⟨failure.record, some failure⟩

end ShellSurvey
