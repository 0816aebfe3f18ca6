import ShellSurvey.Path
import ShellSurvey.Pattern.Compile
import ShellSurvey.Text.Lines
import ShellSurvey.Text.Utf8
import ShellSurvey.World

namespace ShellSurvey

/-- Patterns of paths to skip and to keep, and the test that was made of both. -/
structure Exclusion where
  positive : List String
  negative : List String
  test : String → Bool

/-- All lines of an exclusion in the order in which they are tried. -/
def exclusionLines (positive negative : List String) : List String :=
  positive ++ negative.map ("!" ++ ·)

/-- The text of a path that patterns are tried on: a directory has a slash at its end. -/
def entryText (path : Path) (isDirectory : Bool) : String :=
  if isDirectory && path.text.toList.getLast? != some '/' then path.text ++ "/" else path.text

def Exclusion.skips (exclusion : Exclusion) (path : Path) (isDirectory : Bool) : Bool :=
  exclusion.test (entryText path isDirectory)

/-- Directories of version control and of dependencies. -/
def standardPatterns : List String := [".git/", ".venv/", "node_modules/", "vendor/"]

section

variable [PatternLibrary]

def Exclusion.ofPatterns (positive negative : List String) : Except PatternFlaw Exclusion :=
  (PatternLibrary.compile (exclusionLines positive negative)).map (⟨positive, negative, ·⟩)

/-- The patterns of two exclusions together. -/
def Exclusion.add (a b : Exclusion) : Except PatternFlaw Exclusion :=
  Exclusion.ofPatterns (a.positive ++ b.positive) (a.negative ++ b.negative)

/-- The exclusion that is used unless another is given. -/
def Exclusion.standard : Exclusion where
  positive := standardPatterns
  negative := []
  test := (PatternLibrary.compile standardPatterns).toOption.getD fun _ => false

end

/-- Why a file gives no exclusion. -/
inductive IgnoreFileFlaw where
  | unreadable (refusal : Refusal)
  | notText (malformation : Malformation)
  | badPattern (flaw : PatternFlaw)

def IgnoreFileFlaw.message : IgnoreFileFlaw → String
  | .unreadable refusal => refusal.message
  | .notText malformation => malformation.message
  | .badPattern flaw => flaw.message

/-- The lines of an ignore file that matter, trimmed: neither blank nor a comment. -/
def ignoreLines (text : List Char) : List String :=
  (((splitEditorLines text).map trim).filter fun line => line ≠ [] ∧ line.head? ≠ some '#').map
    String.ofList

/-- The rest of a line that starts with an exclamation mark. -/
def negated? (line : String) : Option String :=
  match line.toList with
  | '!' :: rest => some (.ofList rest)
  | _ => none

section

variable [PatternLibrary]

def Exclusion.ofText (text : List Char) : Except PatternFlaw Exclusion :=
  let lines := ignoreLines text
  Exclusion.ofPatterns (lines.filter fun line => (negated? line).isNone) (lines.filterMap negated?)

/-- The exclusion that a file of patterns describes. -/
def Exclusion.ofFile (disk : Disk) (path : String) : Except IgnoreFileFlaw Exclusion :=
  match disk.content (Path.ofText path).text with
  | .error refusal => .error (.unreadable refusal)
  | .ok content =>
    match decodeStrictly content with
    | .error malformation => .error (.notText malformation)
    | .ok text => (Exclusion.ofText text).mapError .badPattern

end

end ShellSurvey
