import ShellSurvey.Classify
import ShellSurvey.Disk.Edit
import ShellSurvey.Rule.Misfit
import ShellSurvey.Rule.Validity
import ShellSurvey.Survey

namespace ShellSurvey

structure LintOptions where
  finalEol : Bool := true
  carriageReturns : Bool := true
  modulino : Bool := false
  deriving DecidableEq, Repr

/-- The probes that linting needs. -/
def LintOptions.probes (options : LintOptions) : Probes :=
  ⟨options.finalEol, options.carriageReturns⟩

def LintOptions.propertyRules (options : LintOptions) : List PropertyRule :=
  (if options.finalEol then [.finalEol] else []) ++
    (if options.carriageReturns then [.carriageReturn] else []) ++
    (if options.modulino then [.modulino] else []) ++
    [.bom, .shebang, .permissions]

/-- What linting one script came to. An interrupted validation breaks it off, and so does a refusal that is
no failure of the file system. -/
structure Lint where
  findings : List Finding
  log : List LogLine
  commands : List (List String)
  disk : Disk
  broken : Option Interruption

def Record.lintable (record : Record) : Bool :=
  !record.machineGenerated && !record.symlink && !record.directory &&
    (record.posix || record.altShellScript)

def propertyFindings (options : LintOptions) (record : Record) : List Finding :=
  options.propertyRules.foldl (fun findings rule => foldFindings findings (rule.check record)) []

/-- The log line and the finding on a script that could not be read. -/
def unreadableNote (path : String) (error : FileError) : LogLine :=
  .warning ("Could not read " ++ path ++ ": " ++ error.message)

def unreadableFinding (path : String) (error : FileError) : Finding :=
  Kinds.unreadableScript.inFileWith [("error", .str error.reason)] path

/-- The rules on content, one after another. The first failure to read the script is the last
finding. -/
def checkContent (world : World) (record : Record) (lint : Lint) : List ContentRule → Lint
  | [] => lint
  | rule :: rules =>
    match rule.check world record with
    | .ok findings =>
      checkContent world record { lint with findings := foldFindings lint.findings findings } rules
    | .error (.failed error) =>
      { lint with
        findings := foldFindings lint.findings [unreadableFinding record.path error]
        log := lint.log ++ [unreadableNote record.path error] }
    | .error .nulInPath => { lint with broken := some (.refused .nulInPath) }

/-- The disk after a tool took the script away, if it did. -/
def afterTool (disk : Disk) (path : String) (removed : Bool) : Disk :=
  if removed then (disk.remove path).toOption.getD disk else disk

def lintRecord (world : World) (options : LintOptions) (record : Record) : Lint :=
  if record.lintable then
    let validity := checkValidity world record
    let disk := afterTool world.disk record.path validity.removed
    let lint : Lint :=
      { findings := foldFindings (propertyFindings options record) validity.findings
        log := []
        commands := validity.command.toList
        disk := disk
        broken := validity.broken }
    if validity.passed then
      checkContent { world with disk := disk } record lint [.ifs, .safety, .traps]
    else lint
  else ⟨[], [], [], world.disk, none⟩

/-- The first misfit that linting comes upon. A script whose interpreter is no text never gets as far
as the rules on content. -/
def LooseRecord.lintMisfit? (options : LintOptions) (record : LooseRecord) : Option Misfit :=
  if record.settle.lintable then
    (options.propertyRules.findSome? fun rule => rule.misfit? record).or record.validityMisfit?
  else none

end ShellSurvey
