import ShellSurvey.CommandLine.Help

namespace ShellSurvey

/-- What an option is for. -/
inductive OptionKey where
  | help
  | version
  | verbose
  | ignoreFile
  | sh
  | alt
  | excludeInterpreters
  | print0
  | pretty
  | eol
  | cr
  | noEol
  | noCr
  | modulino
  deriving DecidableEq, Repr

/-- An option with its spellings. -/
structure OptionSpec where
  key : OptionKey
  spellings : List String
  valued : Bool := false
  deriving DecidableEq, Repr

/-- An option under all its spellings, as messages name it. -/
def OptionSpec.title (spec : OptionSpec) : String := "/".intercalate spec.spellings

inductive Command where
  | find
  | dump
  | lint
  | advise
  deriving DecidableEq, Repr

def Command.all : List Command := [.find, .dump, .lint, .advise]

def Command.name : Command → String
  | .find => "find"
  | .dump => "dump"
  | .lint => "lint"
  | .advise => "advise"

def Command.ofName? (name : String) : Option Command := Command.all.find? (·.name = name)

/-- A place on the command line with options of its own: before the command, or after it. -/
inductive Level where
  | program
  | command (command : Command)
  deriving DecidableEq, Repr

def programName : String := "shsniff"

def versionText : String := "0.1.0"

def helpOption : OptionSpec := { key := .help, spellings := ["-h", "--help"] }

def flagOption (key : OptionKey) (spelling : String) : OptionSpec :=
  { key := key, spellings := [spelling] }

def valuedOption (key : OptionKey) (spelling : String) : OptionSpec :=
  { key := key, spellings := [spelling], valued := true }

/-- The options of a level, in the order in which candidates are listed. -/
def Level.options : Level → List OptionSpec
  | .program =>
    [helpOption, flagOption .version "--version",
      { key := .verbose, spellings := ["-v", "--verbose"] }]
  | .command called =>
    [helpOption, valuedOption .ignoreFile "--ignore-file"] ++
      match called with
      | .find =>
        [flagOption .sh "--sh", flagOption .alt "--alt",
          valuedOption .excludeInterpreters "--exclude-interpreters",
          flagOption .print0 "--print0"]
      | .dump => [flagOption .pretty "--pretty", flagOption .eol "--eol", flagOption .cr "--cr"]
      | .lint =>
        [flagOption .noEol "--no-eol", flagOption .noCr "--no-cr",
          flagOption .modulino "--modulino"]
      | .advise => []

/-- Every spelling of a level with its option. -/
def Level.spellings (level : Level) : List (String × OptionSpec) :=
  level.options.flatMap fun spec => spec.spellings.map (·, spec)

def Level.programText : Level → String
  | .program => programName
  | .command called => programName ++ " " ++ called.name

def linesText (lines : List String) : String := String.join (lines.map (· ++ "\n"))

def Level.usageLines : Level → List String
  | .program => Help.rootUsage
  | .command .find => Help.findUsage
  | .command .dump => Help.dumpUsage
  | .command .lint => Help.lintUsage
  | .command .advise => Help.adviseUsage

def Level.detailLines : Level → List String
  | .program => Help.rootDetails
  | .command .find => Help.findDetails
  | .command .dump => Help.dumpDetails
  | .command .lint => Help.lintDetails
  | .command .advise => Help.adviseDetails

def Level.usage (level : Level) : String := linesText level.usageLines

def Level.help (level : Level) : String := linesText (level.usageLines ++ level.detailLines)

/-- Options of which at most one may be given. -/
def OptionKey.excludes : OptionKey → OptionKey → Bool
  | .sh, .alt => true
  | .alt, .sh => true
  | _, _ => false

end ShellSurvey
