import ShellSurvey.Lexicon.Basic
import ShellSurvey.Path
import ShellSurvey.Script.Interpreter
import ShellSurvey.Text.Blank
import ShellSurvey.Text.Split

namespace ShellSurvey

structure Shebang where
  text : String
  interpreter : Interpreter
  flags : List String
  deriving DecidableEq, Repr

/-- Programs that only launch the program named next. -/
def launchers : List String := ["/usr/bin/env", "/bin/busybox"]

/-- The words of a command. Only spaces part them. -/
def commandWords (command : List Char) : List String :=
  ((splitAt ' ' command).filter (· ≠ [])).map String.ofList

/-- Takes one launcher away from the front. -/
def dropLauncher : List String → List String
  | [] => []
  | word :: words => if word ∈ launchers then words else word :: words

/-- The words of the command after the two signs of a shebang, launcher aside. Other texts are no
shebangs. -/
def shebangCommand? (text : String) : Option (List String) :=
  match text.toList with
  | '#' :: '!' :: command => some (dropLauncher (commandWords (trim command)))
  | _ => none

/-- The interpreter of a shebang that names none: the one implied elsewhere, or some shell. -/
def Interpreter.ofFallback : Option String → Interpreter
  | some name => if name = "" then .genericPosix else .known name
  | none => .genericPosix

/-- The interpreter of a program called by its file name. -/
def Interpreter.ofProgram (lexicon : Lexicon) (program : String) : Interpreter :=
  match lexicon.filenameInterpreter program with
  | some name => .ofName (if name = "" then program else name)
  | none => .ofName program

/-- Reads the line of a shebang, its line ending already removed. -/
def Shebang.parse? (lexicon : Lexicon) (fallback : Option String) (text : String) : Option Shebang :=
  (shebangCommand? text).map fun words =>
    match words with
    | [] => ⟨text, .ofFallback fallback, []⟩
    | word :: flags =>
      let program := baseName word
      if program = "" then ⟨text, .ofFallback fallback, []⟩
      else ⟨text, .ofProgram lexicon program, flags⟩

end ShellSurvey
