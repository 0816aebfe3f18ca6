import ShellSurvey.Finding.Basic
import ShellSurvey.Validator

namespace ShellSurvey

namespace Kinds

def unknownValidator : FindingKind :=
  ⟨"2d6b9e4a-8c1f-4a3d-b7e0-5f9c1a3e7dcc",
    "Unknown validator for interpreter \x7binterpreter\x7d.", .warning⟩

def interpreterNotFound : FindingKind :=
  ⟨"b8e1d5f3-0a4c-4e6b-9f2d-6a0e4c8b2fdd", "Interpreter not found: \x7bexecutable\x7d.", .warning⟩

def rejectedScript : FindingKind :=
  ⟨"47c0f8a6-3e5d-4b19-a8f1-0b7d3e9c5aee", "\x7binterpreter\x7d syntax error: \x7boutput\x7d",
    .error⟩

end Kinds

def ValidationFailure.finding (failure : ValidationFailure) (path : String) : Finding :=
  match failure with
  | .unknownInterpreter interpreter _ =>
    Kinds.unknownValidator.inFileWith [("interpreter", interpreter)] path
  | .toolMissing executable _ =>
    Kinds.interpreterNotFound.inFileWith [("executable", .str executable)] path
  | .rejected tool output =>
    Kinds.rejectedScript.inFileWith [("interpreter", .str tool), ("output", .str output)] path

def ValidationOutcome.findings (outcome : ValidationOutcome) (path : String) : List Finding :=
  match outcome with
  | .failed failure => [failure.finding path]
  | _ => []

/-- What broke a validation off. -/
def ValidationOutcome.cause? : ValidationOutcome → Option Interruption
  | .interrupted cause => some cause
  | _ => none

/-- What checking validity came to: the findings, the command that was run, whether the script is gone,
and what broke the check off. -/
structure ValidityCheck where
  findings : List Finding
  command : Option (List String)
  removed : Bool
  broken : Option Interruption

def ValidityCheck.passed (check : ValidityCheck) : Bool :=
  check.findings.isEmpty && check.broken.isNone

def Validation.check (validation : Validation) (path : String) : ValidityCheck :=
  ⟨validation.outcome.findings path, validation.command, validation.removed,
    validation.outcome.cause?⟩

/-- Only POSIX scripts are validated. -/
def checkValidity (world : World) (record : Record) : ValidityCheck :=
  if record.posix then (validate world record).check record.path else ⟨[], none, false, none⟩

end ShellSurvey
