import ShellSurvey.Text.LowerCase
import ShellSurvey.Text.Utf8

namespace ShellSurvey

structure Lexicon where
  extensionVerdicts : List (String × Bool)
  filenameVerdicts : List (String × Bool)
  interpreterVerdicts : List (String × Bool)
  configExtensions : List String
  configFilenames : List String
  extensionInterpreters : List (String × String)
  filenameInterpreters : List (String × String)
  fullBash : List String
  kornShells : List String
  altInterpreters : List String
  altExtensions : List String
  altFilenames : List String
  machineExtensions : List String
  byteOrderMarks : List Bytes

variable (lexicon : Lexicon)

/-- Whether files with an extension are POSIX shell scripts, if that is known. -/
def Lexicon.extensionVerdict (extension : String) : Option Bool :=
  lexicon.extensionVerdicts.lookup (lowerCase extension)

/-- Whether files of a name are POSIX shell scripts, if that is known. -/
def Lexicon.filenameVerdict (filename : String) : Option Bool :=
  lexicon.filenameVerdicts.lookup (lowerCase filename)

def Lexicon.readsPosix (interpreter : String) : Bool :=
  (lexicon.interpreterVerdicts.lookup (lowerCase interpreter)).getD false

def Lexicon.isConfig (extension filename : String) : Bool :=
  lexicon.configExtensions.contains (lowerCase extension) ||
    lexicon.configFilenames.contains (lowerCase filename)

def Lexicon.extensionInterpreter (extension : String) : Option String :=
  lexicon.extensionInterpreters.lookup (lowerCase extension)

def Lexicon.filenameInterpreter (filename : String) : Option String :=
  lexicon.filenameInterpreters.lookup (lowerCase filename)

def Lexicon.isMachineMade (extension : String) : Bool :=
  lexicon.machineExtensions.contains (lowerCase extension)

def Lexicon.isFullBash (interpreter : String) : Bool :=
  lexicon.fullBash.contains (lowerCase interpreter)

def Lexicon.isKornShell (interpreter : String) : Bool :=
  lexicon.kornShells.contains (lowerCase interpreter)

def Lexicon.isAltShell (interpreter extension filename : String) : Bool :=
  lexicon.altInterpreters.contains (lowerCase interpreter) ||
    lexicon.altExtensions.contains (lowerCase extension) ||
    lexicon.altFilenames.contains (lowerCase filename)

/-- The lengths that a byte order mark may have, in the order in which they are tried. -/
def markLengths : List Nat := [2, 3, 4, 5]

/-- The most bytes that a byte order mark takes. -/
def longestMark : Nat := 5

/-- The length of the shortest byte order mark that the bytes start with, zero if there is none. -/
def Lexicon.markLength (head : Bytes) : Nat :=
  (markLengths.find? fun length =>
    length ≤ head.length && lexicon.byteOrderMarks.contains (head.take length)).getD 0

/-- The first name that is not its own lower case, which a lexicon could never find. -/
def unreachableName? (names : List String) : Option String :=
  names.find? fun name => name ≠ lowerCase name

end ShellSurvey
