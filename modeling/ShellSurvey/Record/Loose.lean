import ShellSurvey.Json.Display
import ShellSurvey.Json.Writer
import ShellSurvey.Record.Basic

namespace ShellSurvey

/-- The fields that are not checked. -/
inductive PlainField where
  | path
  | filename
  | basename
  | extension
  | symlink
  | shebang
  | containsCr
  | permissions
  | directory
  | ownerExecutable
  | library
  | bom
  | posix
  | bash
  | ksh
  | altShellScript
  | coreConfiguration
  | machineGenerated
  deriving DecidableEq, Repr

inductive Field where
  | plain (field : PlainField)
  | interpreter
  | interpreterFlags
  | lineEnding
  | finalEol
  deriving DecidableEq, Repr

def PlainField.name : PlainField → String
  | .path => "path"
  | .filename => "filename"
  | .basename => "basename"
  | .extension => "extension"
  | .symlink => "symlink"
  | .shebang => "shebang"
  | .containsCr => "contains_cr"
  | .permissions => "permissions"
  | .directory => "directory"
  | .ownerExecutable => "owner_executable"
  | .library => "library"
  | .bom => "bom"
  | .posix => "posixy"
  | .bash => "bash"
  | .ksh => "ksh"
  | .altShellScript => "alt_shell_script"
  | .coreConfiguration => "core_configuration"
  | .machineGenerated => "machine_generated"

def Field.name : Field → String
  | .plain field => field.name
  | .interpreter => "interpreter"
  | .interpreterFlags => "interpreter_flags"
  | .lineEnding => "line_ending"
  | .finalEol => "final_eol"

/-- All fields in the order in which they are written. -/
def Field.all : List Field :=
  [.plain .path, .plain .filename, .plain .basename, .plain .extension, .plain .symlink,
    .plain .shebang, .interpreter, .interpreterFlags, .lineEnding, .finalEol, .plain .containsCr,
    .plain .permissions, .plain .directory, .plain .ownerExecutable, .plain .library, .plain .bom,
    .plain .posix, .plain .bash, .plain .ksh, .plain .altShellScript, .plain .coreConfiguration,
    .plain .machineGenerated]

def Field.names : List String := Field.all.map Field.name

theorem Field.mem_all (field : Field) : field ∈ Field.all := by
  rcases field with f | _ | _ | _ | _
  · cases f <;> decide
  all_goals decide

/-- An interpreter whose name may be any value that counts as something. -/
inductive LooseInterpreter where
  | known (name : Json)
  | genericPosix
  | unresolved
  deriving Repr

structure LooseRecord where
  plain : PlainField → Json
  interpreter : LooseInterpreter
  interpreterFlags : List Json
  lineEnding : LineEnding
  finalEol : FinalEol

def LooseInterpreter.toJson : LooseInterpreter → Json
  | .known name => name
  | .genericPosix => .str genericName
  | .unresolved => .str ""

def FinalEol.toJson (eol : FinalEol) : Json :=
  match eol.isPresent? with
  | some known => .bool known
  | none => .null

def LooseRecord.value (record : LooseRecord) : Field → Json
  | .plain field => record.plain field
  | .interpreter => record.interpreter.toJson
  | .interpreterFlags => .arr record.interpreterFlags
  | .lineEnding => .str record.lineEnding.text
  | .finalEol => record.finalEol.toJson

def LooseRecord.toJson (record : LooseRecord) : Json :=
  .obj (Field.all.map fun field => (field.name, record.value field))

def Interpreter.loosen : Interpreter → LooseInterpreter
  | .known name => .known (.str name)
  | .genericPosix => .genericPosix
  | .unresolved => .unresolved

theorem Interpreter.toJson_loosen (interpreter : Interpreter) :
    interpreter.loosen.toJson = .str interpreter.name := by
  cases interpreter <;> rfl

def Record.plainValue (record : Record) : PlainField → Json
  | .path => .str record.path
  | .filename => .str record.filename
  | .basename => .str record.basename
  | .extension => .str record.extension
  | .symlink => .bool record.symlink
  | .shebang => .str record.shebang
  | .containsCr => .bool record.containsCr
  | .permissions => .int record.permissions
  | .directory => .bool record.directory
  | .ownerExecutable => .bool record.ownerExecutable
  | .library => .bool record.library
  | .bom => .bool record.bom
  | .posix => .bool record.posix
  | .bash => .bool record.bash
  | .ksh => .bool record.ksh
  | .altShellScript => .bool record.altShellScript
  | .coreConfiguration => .bool record.coreConfiguration
  | .machineGenerated => .bool record.machineGenerated

def Record.loosen (record : Record) : LooseRecord where
  plain := record.plainValue
  interpreter := record.interpreter.loosen
  interpreterFlags := record.interpreterFlags.map .str
  lineEnding := record.lineEnding
  finalEol := record.finalEol

def Record.toJson (record : Record) : Json := record.loosen.toJson

/-- The written form of a record. -/
def Record.jsonText (record : Record) (layout : Layout) : String := record.toJson.text layout

def LooseInterpreter.settle : LooseInterpreter → Interpreter
  | .known (.str name) => .known name
  | .known name => .known name.display
  | .genericPosix => .genericPosix
  | .unresolved => .unresolved

/-- The record that a loose one counts as: values that count as something are true, and values in
place of a text are taken as they would be shown. -/
def LooseRecord.settle (record : LooseRecord) : Record :=
  let text (field : PlainField) : String := (record.plain field).display
  let flag (field : PlainField) : Bool := (record.plain field).present
  { path := text .path
    filename := text .filename
    basename := text .basename
    extension := text .extension
    symlink := flag .symlink
    shebang := text .shebang
    interpreter := record.interpreter.settle
    interpreterFlags := record.interpreterFlags.map Json.display
    lineEnding := record.lineEnding
    finalEol := record.finalEol
    containsCr := flag .containsCr
    permissions := (record.plain .permissions).integer?.getD 0
    directory := flag .directory
    ownerExecutable := flag .ownerExecutable
    library := flag .library
    bom := flag .bom
    posix := flag .posix
    bash := flag .bash
    ksh := flag .ksh
    altShellScript := flag .altShellScript
    coreConfiguration := flag .coreConfiguration
    machineGenerated := flag .machineGenerated }

theorem Record.settle_loosen (record : Record) : record.loosen.settle = record := by
  have flags : (List.map Json.display ∘ List.map Json.str) record.interpreterFlags =
      record.interpreterFlags := by
    simp [Function.comp_def, Json.display]
  cases record with
  | mk path filename basename extension symlink shebang interpreter =>
    cases interpreter <;>
      simp_all [Record.loosen, LooseRecord.settle, Record.plainValue, Json.display, Json.present,
        Json.integer?, Interpreter.loosen, LooseInterpreter.settle]

def LooseInterpreter.same : LooseInterpreter → LooseInterpreter → Bool
  | .known a, .known b => a.same b
  | .genericPosix, .genericPosix => true
  | .unresolved, .unresolved => true
  | _, _ => false

/-- Equality of loose records, field by field. -/
def LooseRecord.same (a b : LooseRecord) : Bool :=
  a.interpreter.same b.interpreter && sameElements a.interpreterFlags b.interpreterFlags &&
    a.lineEnding == b.lineEnding && a.finalEol == b.finalEol &&
    Field.all.all fun
      | .plain field => (a.plain field).same (b.plain field)
      | _ => true

end ShellSurvey
