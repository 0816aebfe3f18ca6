import ShellSurvey.Finding.Basic
import ShellSurvey.Lexicon.Standard
import ShellSurvey.Record.Basic

namespace ShellSurvey

namespace Kinds

def missingFinalEol : FindingKind :=
  ⟨"5f0c3a55-7f0e-4a7e-9a59-0c6a3f1d2b11", "Missing final end of line sequence.", .warning⟩

def crLineEnding : FindingKind :=
  ⟨"c2b1e1f4-3d52-4b8e-8f6e-7d1a9b2c4e20", "CR/CRLF line ending detected.", .warning⟩

def leadingBom : FindingKind :=
  ⟨"0e6f9d3a-91b4-4d7c-a0c5-2f8e4b6a1d33", "Leading BOM reduces portability.", .warning⟩

def missingShebang : FindingKind :=
  ⟨"8a4d2c1e-6b3f-4e59-9d7a-1c0b5e8f3a44", "Missing shebang.", .warning⟩

def flippedShebang : FindingKind :=
  ⟨"3b7e9f02-4c1d-4a86-b5e3-9f2d6c8a0b55", "Shebang appears to be flipped.", .warning⟩

def relativeShebang : FindingKind :=
  ⟨"d4c8a1b7-2e9f-4f03-8c6d-5a3b7e1f9c66",
    "Shebang application should be absolute and non-nested.", .warning⟩

def commentedShebang : FindingKind :=
  ⟨"71e3b5d9-8a2c-4b6f-9e04-3d7f1a5c8b77", "Commented shebangs may be unparsable.", .warning⟩

def shebangFlags : FindingKind :=
  ⟨"a9f2c6e4-5b8d-4c17-a3e9-6f0b2d4a7c88",
    "Risk of parse error for interpreter space / secondary argument. Any safety flags will be ignored on `\x7binterpreter\x7d <script>` launch.",
    .warning⟩

def sourceableExecutable : FindingKind :=
  ⟨"1c5e8b3f-7d0a-4e92-b6c4-8a2f5d9e1b99", "Sourceable script features executable mode bits.",
    .warning⟩

def ambiguousLaunch : FindingKind :=
  ⟨"6e0a4d7c-9f3b-4d28-8b1e-4c6a0f2e5daa",
    "Ambiguous launch style. Either feature a file extension, or else feature executable bits.",
    .warning⟩

def modulino : FindingKind :=
  ⟨"f3a7c0e2-1d6b-4f85-9c2a-7e4b8d0f6ebb",
    "Modulino ambiguity. Either have owner executable permissions with no extension, or else remove executable bits and use an extension like .lib.sh.",
    .warning⟩

end Kinds

inductive PropertyRule where
  | finalEol
  | carriageReturn
  | bom
  | shebang
  | permissions
  | modulino
  deriving DecidableEq, Repr

def Record.isConfig (record : Record) : Bool :=
  Lexicon.standard.isConfig record.extension record.filename

/-- The first oddity of a shebang. -/
def shebangFindings (record : Record) : List Finding :=
  match record.shebang.toList with
  | [] => [Kinds.missingShebang.inFile record.path]
  | '#' :: '!' :: command =>
    if command.head? ≠ some '/' then [Kinds.relativeShebang.inFile record.path]
    else if command.contains '#' then [Kinds.commentedShebang.inFile record.path]
    else if record.interpreterFlags ≠ [] then
      [Kinds.shebangFlags.inFileWith [("interpreter", .str record.interpreterName)] record.path]
    else []
  | _ => [Kinds.flippedShebang.inFile record.path]

/-- A file without an extension that its owner cannot run, or one with an extension that somebody
can. -/
def ambiguous (extension : String) (ownerRuns anyoneRuns : Bool) : Bool :=
  if extension = "" then !ownerRuns else anyoneRuns

def PropertyRule.check (rule : PropertyRule) (record : Record) : List Finding :=
  let path := record.path
  let anyoneRuns := hasBits record.permissions anyExecute
  match rule with
  | .finalEol => reportIf (record.finalEol = .absent) Kinds.missingFinalEol path
  | .carriageReturn => reportIf record.containsCr Kinds.crLineEnding path
  | .bom => reportIf record.bom Kinds.leadingBom path
  | .shebang => if record.isConfig then [] else shebangFindings record
  | .permissions =>
    if record.library && anyoneRuns then [Kinds.sourceableExecutable.inFile path]
    else
      reportIf (ambiguous record.extension (hasBits record.permissions ownerExecute) anyoneRuns)
        Kinds.ambiguousLaunch path
  | .modulino =>
    reportIf (!record.isConfig && ambiguous record.extension record.ownerExecutable anyoneRuns)
      Kinds.modulino path

end ShellSurvey
