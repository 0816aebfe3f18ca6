import ShellSurvey.CommandLine.Parse
import ShellSurvey.Task.Advise
import ShellSurvey.Task.Dump
import ShellSurvey.Task.Find
import ShellSurvey.Task.Lint

namespace ShellSurvey

/-- What broke a run off: a pattern or a file of patterns, an option whose value is missing, or an
interruption of its task. -/
inductive Breakdown where
  | ignoreFile (flaw : IgnoreFileFlaw)
  | noIgnoreFile
  | noExcludedNames
  | interrupted (cause : Interruption)

def Breakdown.message : Breakdown → String
  | .ignoreFile flaw => flaw.message
  | .noIgnoreFile => "Expected Path, got <class 'list'>"
  | .noExcludedNames => "'list' object has no attribute 'split'"
  | .interrupted cause => cause.message

/-- How a run ended: by returning a code, by leaving at once with a code, or by a breakdown. -/
inductive Ending where
  | returned (code : Nat)
  | left (code : Nat)
  | broke (breakdown : Breakdown)

/-- The code that a run leaves to its caller. -/
def Ending.code : Ending → Nat
  | .returned code => code
  | .left code => code
  | .broke _ => 1

/-- What the error output ends with. -/
def Ending.lastWords : Ending → String
  | .broke breakdown => breakdown.message ++ "\n"
  | _ => ""

structure Run where
  out : String
  err : String
  commands : List (List String)
  ending : Ending
  disk : Disk

/-- Log lines as they appear on the error output. Debugging lines appear on request only. -/
def shownLog (verbose : Bool) (log : List LogLine) : String :=
  String.join <| log.filterMap fun
    | .debug text => if verbose then some (text ++ "\n") else none
    | .warning text => some (text ++ "\n")

/-- A text that ends a run before it starts. -/
def Stop.run (disk : Disk) : Stop → Run
  | .help level => ⟨level.help, "", [], .left 0, disk⟩
  | .version => ⟨versionText ++ "\n", "", [], .left 0, disk⟩
  | .mistake level text =>
    ⟨"", level.usage ++ level.programText ++ ": error: " ++ text ++ "\n", [], .left 2, disk⟩

/-- The standard exclusion, together with the one of an ignore file if it is given. -/
def exclusionFor [PatternLibrary] (disk : Disk) (settings : Settings) :
    Except Breakdown Exclusion := do
  let badPattern (flaw : PatternFlaw) : Breakdown := .ignoreFile (.badPattern flaw)
  let standard ← (Exclusion.ofPatterns standardPatterns []).mapError badPattern
  match settings.last? .ignoreFile with
  | none => .ok standard
  | some none => .error .noIgnoreFile
  | some (some path) =>
    let given ← (Exclusion.ofFile disk path).mapError .ignoreFile
    (standard.add given).mapError badPattern

/-- The pieces of a list of names between commas. -/
def commaList (text : String) : List String := (splitAt ',' text.toList).map String.ofList

/-- The names of interpreters to exclude. -/
def excludedNames (settings : Settings) : Except Breakdown (List String) :=
  match settings.last? .excludeInterpreters with
  | none => .ok []
  | some none => .error .noExcludedNames
  | some (some names) => .ok (commaList names)

def findOptions (settings : Settings) (excluded : List String) : FindOptions where
  mode :=
    if settings.has .sh then .plainSh else if settings.has .alt then .altShell else .posix
  excluded := excluded
  terminator := if settings.has .print0 then .nul else .lineFeed

/-- The report of a command, whether its result means success, and the disk it leaves. -/
def Command.perform (command : Command) (world : World) (exclusion : Exclusion)
    (settings : Settings) (roots : List String) : Except Breakdown (Report × Bool × Disk) :=
  match command with
  | .find => do
    let options := findOptions settings (← excludedNames settings)
    return (findScripts world exclusion options roots, true, world.disk)
  | .dump =>
    let probes : Probes := ⟨settings.has .eol, settings.has .cr⟩
    let layout : Layout := if settings.has .pretty then .indented else .compact
    .ok (dumpRecords world exclusion probes layout roots, true, world.disk)
  | .lint =>
    let options : LintOptions :=
      ⟨!settings.has .noEol, !settings.has .noCr, settings.has .modulino⟩
    let progress := lintProgress world exclusion options roots
    .ok (progress.report, false, progress.disk)
  | .advise => .ok (adviseMigration world exclusion roots, false, world.disk)

/-- A result that means success gives zero. -/
def exitCode (result success : Bool) : Nat := if result = success then 0 else 1

def Invocation.run [PatternLibrary] (world : World) (invocation : Invocation) : Run :=
  match invocation.call with
  | none => ⟨Level.program.help, "", [], .returned 0, world.disk⟩
  | some (command, arguments) =>
    let performed := do
      let exclusion ← exclusionFor world.disk arguments.settings
      command.perform world exclusion arguments.settings arguments.roots
    match performed with
    | .error breakdown => ⟨"", "", [], .broke breakdown, world.disk⟩
    | .ok (report, success, disk) =>
      { out := report.out
        err := shownLog (invocation.settings.has .verbose) report.log
        commands := report.commands
        ending :=
          match report.result with
          | .error cause => .broke (.interrupted cause)
          | .ok result => .returned (exitCode result success)
        disk := disk }

/-- Runs the program with some arguments. -/
def runCommandLine [PatternLibrary] (world : World) (args : List String) : Run :=
  match readCommandLine args with
  | .error stop => stop.run world.disk
  | .ok invocation => invocation.run world

end ShellSurvey
