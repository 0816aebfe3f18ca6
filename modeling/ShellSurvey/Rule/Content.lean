import ShellSurvey.Finding.Folded
import ShellSurvey.Record.Basic
import ShellSurvey.Text.Blank
import ShellSurvey.Text.Lines
import ShellSurvey.World

namespace ShellSurvey

namespace Kinds

def ifsNotReset : FindingKind :=
  ⟨"9d3e7a1c-4f8b-4c26-8e0a-3b5d9f1c7a01",
    "Tokenize like `unset IFS` at the top of executable scripts.", .warning⟩

def noSafetyFlags : FindingKind :=
  ⟨"e5b0c8f4-2a7d-4e93-9c1b-7f3a5d0e8b02",
    "Control program flow like `set -euf` at the top of executable scripts.", .warning⟩

def execTraps : FindingKind :=
  ⟨"3f8a1d6e-9b2c-4a57-b0e4-1c7f3a9d5e03", "exec discards traps.", .warning⟩

def zshListTraps : FindingKind :=
  ⟨"b1d4f7a0-6e3c-4b89-a2f5-8d0c4e6b1f04", "List traps deprecated in favor of function traps.",
    .warning⟩

def bashErrtrace : FindingKind :=
  ⟨"7c2e5b9d-0f4a-4d1e-8b36-2a9e6c0f3d05",
    "Missing `set -E` / `set -o errtrace` to guard traps.", .warning⟩

def subshellTraps : FindingKind :=
  ⟨"4a9f0e3b-7c5d-4f62-9e18-5b1d7a3c9f06", "Traps may reset in subshells.", .warning⟩

def unreadableScript : FindingKind :=
  ⟨"8e2d6f1a-5c3b-4a90-b7d4-0f6e2a8c4b07", "Could not read script: \x7berror\x7d.", .error⟩

end Kinds

abbrev Line := List Char

/-- What follows a word at the front of a line. -/
def after? (word : String) (line : Line) : Option Line :=
  if word.toList.isPrefixOf line then some (line.drop word.toList.length) else none

def startsWith (word : String) (line : Line) : Bool := word.toList.isPrefixOf line

/-- Some blanks and then the rest, if there is a blank at the front. -/
def afterBlanks? : Line → Option Line
  | c :: rest => if isBlank c then some (rest.dropWhile isBlank) else none
  | [] => none

/-- A line without its comment and the blanks around what is left. -/
def stripComment (line : Line) : Line := trim (line.takeWhile (· ≠ '#'))

def isComment (line : Line) : Bool := line.head? == some '#'

/-- A line that is nothing but `unset IFS`, blanks and a comment. -/
def isIfsUnset (line : Line) : Bool :=
  match ((after? "unset" (line.dropWhile isBlank)).bind afterBlanks?).bind (after? "IFS") with
  | none => false
  | some [] => true
  | some rest =>
    match afterBlanks? rest with
    | some tail => tail = [] || isComment tail
    | none => false

/-- The first line, with its number, that a test does not pass over. Lines count from one. -/
def firstLineFrom (number : Nat) (passedOver : Line → Bool) : List Line → Option (Nat × Line)
  | [] => none
  | line :: rest =>
    if passedOver line then firstLineFrom (number + 1) passedOver rest else some (number, line)

/-- The first trimmed line that is not blank, no comment, and does not start with one of some
words. -/
def firstStatement (words : List String) (lines : List Line) : Option (Nat × Line) :=
  firstLineFrom 1
    (fun line => line = [] || isComment line || words.any fun word => startsWith word line)
    (lines.map trim)

/-- A line that the search for a reset of the separators passes over: blank, or starting with a
comment or one of the two commands that may come before. -/
def isBeforeIfs (line : Line) : Bool :=
  trim line = [] || isComment line || startsWith "set" line || startsWith "unset" line

/-- A line that assigns the separators. -/
def isIfsAssignment (line : Line) : Bool :=
  trim ((stripComment line).takeWhile (· ≠ '=')) = ['I', 'F', 'S']

/-- The line that comes in place of a reset of the separators, from some line on. -/
def ifsOffence (number : Nat) : List Line → Option Nat
  | [] => none
  | line :: rest =>
    if isIfsUnset line then none
    else if isBeforeIfs line then ifsOffence (number + 1) rest
    else if isIfsAssignment line then none
    else some number

/-- A statement that sets flags. -/
def isSetStatement (statement : Line) : Bool :=
  trim ((stripComment statement).takeWhile (· ≠ ' ')) = ['s', 'e', 't']

/-- The line of the first statement, if it does not set flags. -/
def safetyOffence (lines : List Line) : Option Nat :=
  match firstStatement ["IFS", "unset"] lines with
  | some (number, statement) => if isSetStatement statement then none else some number
  | none => none

/-- A trap set by the `trap` command. -/
def isListTrap (line : Line) : Bool := ((after? "trap " line).map (!·.isEmpty)).getD false

/-- An opening and a closing parenthesis with something after them. -/
def holdsCall : Line → Bool
  | '(' :: ')' :: _ :: _ => true
  | _ :: rest => holdsCall rest
  | [] => false

/-- A trap set by defining a function. -/
def isFunctionTrap (line : Line) : Bool :=
  match after? "TRAP" line with
  | some (_ :: rest) => holdsCall rest
  | _ => false

/-- Some line sets a trap of either sort. -/
def setsTrap (lines : List Line) : Bool := lines.any fun line => isListTrap line || isFunctionTrap line

def isExec (line : Line) : Bool := ((after? "exec " line).map (!·.isEmpty)).getD false

/-- Flags that start with a cluster that holds `E`. -/
def startsWithErrtraceFlag (flags : Line) : Bool :=
  match flags with
  | '-' :: rest => (rest.takeWhile fun c => !isBlank c).contains 'E'
  | _ => false

/-- What comes before a word at the end of a line, in reverse. -/
def beforeEnd? (word : String) (line : Line) : Option Line :=
  let ending := word.toList.reverse
  if ending.isPrefixOf line.reverse then some (line.reverse.drop ending.length) else none

/-- Flags that end with a cluster whose last letter is `o`, and the word for error traces. -/
def endsWithErrtraceWord (flags : Line) : Bool :=
  match beforeEnd? " errtrace" flags with
  | some ('o' :: before) => (before.takeWhile fun c => !isBlank c).contains '-'
  | _ => false

/-- A `set` command that makes functions inherit traps on errors. -/
def setsErrtrace (line : Line) : Bool :=
  match after? "set " line with
  | some flags => startsWithErrtraceFlag flags || endsWithErrtraceWord flags
  | none => false

/-- The trimmed lines that are neither blank nor comments, with their numbers. -/
def statements (lines : List Line) : List (Nat × Line) :=
  ((lines.map trim).zipIdx 1).filterMap fun (line, number) =>
    if line = [] || isComment line then none else some (number, line)

/-- The finding on the dialect of a script with traps. -/
def dialectFindings (record : Record) (statements : List Line) : List Finding :=
  let path := record.path
  let interpreter := record.interpreterName
  if interpreter = "zsh" then reportIf (statements.any isListTrap) Kinds.zshListTraps path
  else if startsWith "bash" interpreter.toList then
    reportIf (!statements.any setsErrtrace) Kinds.bashErrtrace path
  else [Kinds.subshellTraps.inFile path]

def trapFindings (record : Record) (lines : List Line) : List Finding :=
  let statements := statements lines
  let texts := statements.map Prod.snd
  if setsTrap texts then
    let execs := statements.filter fun statement => isExec statement.2
    foldFindings []
      (execs.map (fun statement => Kinds.execTraps.atLine record.path statement.1) ++
        dialectFindings record texts)
  else []

inductive ContentRule where
  | ifs
  | safety
  | traps
  deriving DecidableEq, Repr

/-- The rules on the top of a script spare libraries. -/
def ContentRule.applies (rule : ContentRule) (record : Record) : Bool :=
  match rule with
  | .ifs => record.posix && !record.library
  | .safety => record.posix && !record.library
  | .traps => record.posix

/-- The findings of a rule on the lines of a script. -/
def ContentRule.inspect (rule : ContentRule) (record : Record) (lines : List Line) : List Finding :=
  match rule with
  | .ifs => (ifsOffence 1 lines).toList.map (Kinds.ifsNotReset.atLine record.path)
  | .safety => (safetyOffence lines).toList.map (Kinds.noSafetyFlags.atLine record.path)
  | .traps => trapFindings record lines

/-- The lines of the script at a path. -/
def readLines (world : World) (path : String) : Except Refusal (List Line) :=
  (world.read .content path (Path.ofText path).text).map fun content =>
    splitLines (decodeLossy content)

/-- A rule that does not apply does not read the script. -/
def ContentRule.check (rule : ContentRule) (world : World) (record : Record) :
    Except Refusal (List Finding) :=
  if rule.applies record then (readLines world record.path).map (rule.inspect record) else .ok []

end ShellSurvey
