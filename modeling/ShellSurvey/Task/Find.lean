import ShellSurvey.Record.Loose
import ShellSurvey.Task.Report

namespace ShellSurvey

/-- Any POSIX script, those for plain `sh` alone, or those for shells outside POSIX. -/
inductive FindMode where
  | posix
  | plainSh
  | altShell
  deriving DecidableEq, Repr

def FindMode.all : List FindMode := [.posix, .plainSh, .altShell]

def FindMode.name : FindMode → String
  | .posix => "posixy"
  | .plainSh => "sh"
  | .altShell => "alt"

def FindMode.ofName? (name : String) : Option FindMode := FindMode.all.find? (·.name = name)

/-- A value that names no mode. -/
def FindMode.unknownMessage (value : Json) : String := value.literal ++ " is not a valid FindMode"

def FindMode.accepts (mode : FindMode) (record : Record) : Bool :=
  match mode with
  | .plainSh =>
    record.posix && (record.interpreterName = "sh" || record.interpreterName = genericName)
  | .altShell => record.altShellScript
  | .posix => record.posix

/-- A record of a mode that no machine made and whose interpreter is not excluded. -/
def FindMode.finds (mode : FindMode) (excluded : List String) (record : Record) : Bool :=
  !record.machineGenerated && !excluded.contains record.interpreterName && mode.accepts record

/-- What a mode says of a loose record: the value of a field may stand for itself. -/
def FindMode.acceptance (mode : FindMode) (record : LooseRecord) : Json :=
  let posix := record.plain .posix
  let name := record.interpreter.toJson
  match mode with
  | .plainSh =>
    if posix.present then .bool (name.same (.str "sh") || name.same (.str genericName)) else posix
  | .altShell => record.plain .altShellScript
  | .posix => posix

/-- Finding on loose records and names of any kind. -/
def FindMode.judge (mode : FindMode) (excluded : List Json) (record : LooseRecord) : Json :=
  if (record.plain .machineGenerated).present ||
      excluded.any fun name => name.same record.interpreter.toJson then .bool false
  else mode.acceptance record

/-- On a record of the proper kinds, judging is finding. -/
theorem FindMode.judge_loosen (mode : FindMode) (excluded : List String) (record : Record) :
    mode.judge (excluded.map .str) record.loosen = .bool (mode.finds excluded record) := by
  have name : record.loosen.interpreter.toJson = .str record.interpreterName :=
    Interpreter.toJson_loosen record.interpreter
  have plain (field : PlainField) : record.loosen.plain field = record.plainValue field := rfl
  have listed : ((excluded.map Json.str).any fun other => other.same (.str record.interpreterName))
      = excluded.contains record.interpreterName := by
    induction excluded with
    | nil => rfl
    | cons first rest ih =>
      simp only [List.map_cons, List.any_cons, ih, List.contains_cons, Json.same]
      rw [Bool.beq_comm]
  simp only [FindMode.judge, FindMode.finds, name, plain, listed, Record.plainValue, Json.present]
  cases record.machineGenerated <;> cases excluded.contains record.interpreterName <;>
    simp [FindMode.acceptance, FindMode.accepts, name, plain, Record.plainValue, Json.present, Json.same]
  cases mode <;> cases record.posix <;> simp
  all_goals rfl

/-- What ends each path in the output. -/
inductive Terminator where
  | lineFeed
  | nul
  deriving DecidableEq, Repr

def Terminator.text : Terminator → String
  | .lineFeed => "\n"
  | .nul => "\x00"

structure FindOptions where
  mode : FindMode := .posix
  excluded : List String := []
  terminator : Terminator := .lineFeed
  deriving DecidableEq, Repr

/-- Names to exclude, empty ones aside. -/
def FindOptions.excludedNames (options : FindOptions) : List String :=
  options.excluded.filter (· ≠ "")

def Survey.found (survey : Survey) (options : FindOptions) : List Record :=
  survey.records.filter (options.mode.finds options.excludedNames)

/-- The result is true if every path could be classified. -/
def findScripts (world : World) (exclusion : Exclusion) (options : FindOptions)
    (roots : List String) : Report :=
  let survey := survey world exclusion {} roots
  survey.report ((survey.found options).map fun record => record.path ++ options.terminator.text)
    (!survey.anyFailed)

end ShellSurvey
