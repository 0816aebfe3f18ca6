import ShellSurvey.Finding.Basic

namespace ShellSurvey

/-- The mark of a severity. -/
def Severity.mark : Severity → Char
  | .error => '✗'
  | .warning => '?'
  | .info => 'i'

/-- The terminal's number for the colour of a severity. -/
def Severity.colour : Severity → Nat
  | .error => 31
  | .warning => 33
  | .info => 34

/-- The settings from the environment that decide on colours. -/
structure ColourSettings where
  disabled : Bool := false
  noColour : Bool := false
  forced : Bool := false
  deriving DecidableEq, Repr

/-- Off a terminal, colours appear only when forced, and never when they are turned off. -/
def ColourSettings.coloured (settings : ColourSettings) : Bool :=
  !settings.disabled && !settings.noColour && settings.forced

def escapeCode (number : Nat) : List Char := '\x1b' :: '[' :: natDigits number ++ ['m']

/-- The mark in its brackets. -/
def Severity.bracket (severity : Severity) (coloured : Bool) : List Char :=
  if coloured then
    '[' :: escapeCode severity.colour ++ [severity.mark] ++ escapeCode 0 ++ [']']
  else ['[', severity.mark, ']']

/-- The space below a mark in its brackets. -/
def indentation : List Char := [' ', ' ', ' ']

/-- The lines of a message, each ending in a line feed. -/
def messageText (severity : Severity) (coloured : Bool) (message : List Char) : List Char :=
  match splitAt '\n' message with
  | [] => []
  | first :: rest =>
    severity.bracket coloured ++ ' ' :: first ++ ['\n'] ++
      rest.flatMap fun line => indentation ++ ' ' :: line ++ ['\n']

def sayIn (settings : ColourSettings) (severity : Severity) (parts : List String) : String :=
  .ofList (messageText severity settings.coloured (joinTexts "\n" parts).toList)

/-- A message without colours. -/
def say (severity : Severity) (message : String) : String := sayIn {} severity [message]

/-- A finding as it is reported, on the channel of its severity. -/
def Finding.report (settings : ColourSettings) (finding : Finding) : Except TemplateFlaw String :=
  finding.describe.map fun text => sayIn settings finding.kind.severity [text]

end ShellSurvey
