import ShellSurvey.Record.Misfit
import ShellSurvey.Rule.Content
import ShellSurvey.Rule.Property

namespace ShellSurvey

/-- The extension alone makes a configuration file. -/
def LooseRecord.extensionIsConfig (record : LooseRecord) : Bool :=
  Lexicon.standard.isConfig record.settle.extension ""

/-- The misfit met in telling whether a file is a configuration file: the file name counts only if the
extension does not settle it. -/
def LooseRecord.configMisfit? (record : LooseRecord) : Option Misfit :=
  ((record.plain .extension).textMisfit? "lower").or
    (if record.extensionIsConfig then none else (record.plain .filename).textMisfit? "lower")

def LooseRecord.shebangMisfit? (record : LooseRecord) : Option Misfit :=
  (record.plain .shebang).textMisfit? "startswith"

/-- The first misfit that a rule comes upon. -/
def PropertyRule.misfit? (rule : PropertyRule) (record : LooseRecord) : Option Misfit :=
  let unlessConfig (misfit? : Option Misfit) : Option Misfit :=
    record.configMisfit?.or (if record.settle.isConfig then none else misfit?)
  match rule with
  | .finalEol => none
  | .carriageReturn => none
  | .bom => none
  | .shebang => unlessConfig record.shebangMisfit?
  | .permissions => (record.plain .permissions).bitsMisfit?
  | .modulino =>
    unlessConfig <|
      if record.settle.extension = "" then none else (record.plain .permissions).bitsMisfit?

/-- Only the rule on traps looks into the interpreter, once it has found a trap. -/
def ContentRule.misfit? (rule : ContentRule) (world : World) (record : LooseRecord) :
    Option Misfit :=
  let settled := record.settle
  match rule, readLines world settled.path with
  | .traps, .ok lines =>
    if settled.posix && setsTrap ((statements lines).map Prod.snd) then
      record.interpreter.toJson.textMisfit? "startswith"
    else none
  | _, _ => none

/-- The misfit that a check of validity comes upon. -/
def LooseRecord.validityMisfit? (record : LooseRecord) : Option Misfit :=
  if record.settle.posix then record.interpreter.toJson.keyMisfit? else none

theorem PropertyRule.misfit?_loosen (rule : PropertyRule) (record : Record) :
    rule.misfit? record.loosen = none := by
  cases rule <;>
    simp [PropertyRule.misfit?, LooseRecord.configMisfit?, LooseRecord.shebangMisfit?, Record.loosen,
      Record.plainValue, Json.textMisfit?_str, Json.bitsMisfit?_int]

end ShellSurvey
