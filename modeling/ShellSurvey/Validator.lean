import ShellSurvey.Record.Misfit
import ShellSurvey.Text.Blank
import ShellSurvey.Text.Quoted
import ShellSurvey.World

namespace ShellSurvey

/-- The ways to have a script validated. -/
inductive Validator where
  | shellcheck
  | noExecution
  | compileOnly
  | lintOnly
  | byteCompile
  | gnuAwk
  | gofmt
  deriving DecidableEq, Repr

/-- The interpreters whose scripts can be validated. -/
def validators : List (String × Validator) :=
  (["ash", "bash", "bash4", "bmake", "bosh", "csh", "dash", "elvish", "fish", "gmake", "ksh",
      "ksh88", "ksh93", "lksh", "make", "mksh", "oksh", "oil", "osh", "pdksh", "pmake", "posh", "rc",
      "rksh", "tcsh", "yash", "ysh", "zsh"].map (·, .noExecution)) ++
    (["iojs", "node", "perl", "perl6", "ruby"].map (·, .compileOnly)) ++
    (["python", "python3"].map (·, .byteCompile)) ++
    [(genericName, .shellcheck), ("sh", .shellcheck), ("php", .lintOnly), ("gawk", .gnuAwk),
      ("go", .gofmt)]

def Validator.forInterpreter? (interpreter : String) : Option Validator :=
  validators.lookup interpreter

/-- The program that must be at hand. -/
def Validator.executable (validator : Validator) (interpreter : String) : String :=
  match validator with
  | .shellcheck => "shellcheck"
  | .gofmt => "gofmt"
  | _ => interpreter

/-- A call of a tool, with the name that a rejection goes by. -/
structure ToolCall where
  tool : String
  command : List String
  deriving DecidableEq, Repr

/-- How each tool is called. -/
def Validator.call (validator : Validator) (interpreter path : String) : ToolCall :=
  match validator with
  | .shellcheck => ⟨"shellcheck", ["shellcheck", "--shell=sh", "--severity=error", path]⟩
  | .noExecution => ⟨interpreter, [interpreter, "-n", path]⟩
  | .compileOnly => ⟨interpreter, [interpreter, "-c", path]⟩
  | .lintOnly => ⟨interpreter, [interpreter, "-l", path]⟩
  | .byteCompile => ⟨interpreter, [interpreter, "-m", "py_compile", path]⟩
  | .gnuAwk => ⟨interpreter, [interpreter, "--lint", "-f", path]⟩
  | .gofmt => ⟨"gofmt", ["gofmt", "-e", path]⟩

/-- Why a script is not known to be valid. -/
inductive ValidationFailure where
  | unknownInterpreter (interpreter : Json) (path : String)
  | toolMissing (executable path : String)
  | rejected (tool output : String)
  deriving Repr

def ValidationFailure.message : ValidationFailure → String
  | .unknownInterpreter interpreter path =>
    "Unknown validator for interpreter " ++ interpreter.literal ++ ": " ++ path
  | .toolMissing executable path => executable ++ " not found: " ++ path
  | .rejected tool output =>
    if output = "" then tool ++ " syntax error" else tool ++ " syntax error: " ++ output

/-- What validating a script came to: it is valid, it is not known to be, or the validation was broken
off. -/
inductive ValidationOutcome where
  | valid
  | failed (failure : ValidationFailure)
  | interrupted (cause : Interruption)

/-- A validation: the command that was run, the outcome, and whether the tool took the script away. -/
structure Validation where
  command : Option (List String)
  outcome : ValidationOutcome
  removed : Bool

/-- The verdict of a tool that answers: the errors, or else the output, without the blanks around
them. -/
def ToolAnswer.outcome (answer : ToolAnswer) (tool : String) : ValidationOutcome :=
  if answer.code = 0 then .valid
  else
    let shown := if answer.err = "" then answer.out else answer.err
    .failed (.rejected tool (.ofList (trim shown.toList)))

/-- What a run comes to. A tool whose output is no text has run all the same. -/
def ToolRun.validation (run : ToolRun) (call : ToolCall) : Validation :=
  match run with
  | .answered answer => ⟨some call.command, answer.outcome call.tool, answer.removesScript⟩
  | .garbled malformation removesScript =>
    ⟨some call.command, .interrupted (.garbled malformation), removesScript⟩
  | .unlaunched refusal => ⟨none, .interrupted (.refused refusal), false⟩

def validate (world : World) (record : Record) : Validation :=
  let name := record.interpreterName
  match Validator.forInterpreter? name with
  | none => ⟨none, .failed (.unknownInterpreter (.str name) record.path), false⟩
  | some validator =>
    let executable := validator.executable name
    let call := validator.call name record.path
    match world.launch executable call.command with
    | none => ⟨none, .failed (.toolMissing executable record.path), false⟩
    | some run => run.validation call

/-- Validating by a loose record: a name that is no text is unknown, and a collection is no name. -/
def LooseRecord.validate (world : World) (record : LooseRecord) : Except Misfit Validation :=
  let settled := record.settle
  let name := record.interpreter.toJson
  match name.text?, name.keyMisfit? with
  | some _, _ => .ok (ShellSurvey.validate world settled)
  | none, some misfit => .error misfit
  | none, none => .ok ⟨none, .failed (.unknownInterpreter name settled.path), false⟩

end ShellSurvey
