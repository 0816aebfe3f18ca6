import ShellSurvey.Text.Digit
import ShellSurvey.Text.Split

namespace ShellSurvey

structure Location where
  path : String
  lines : List Int := []
  deriving DecidableEq, Repr

/-- Puts a line number into a list in increasing order, unless it is there. -/
def insertLine (line : Int) : List Int → List Int
  | [] => [line]
  | known :: rest =>
    if line < known then line :: known :: rest
    else if line = known then known :: rest
    else known :: insertLine line rest

/-- Line numbers in increasing order, each once. -/
def sortLines (lines : List Int) : List Int := lines.foldr insertLine []

/-- Two locations lie in different files and make no common one. -/
structure LocationClash where
  first : String
  second : String
  deriving DecidableEq, Repr

def LocationClash.message (_ : LocationClash) : String := "Cannot combine different file locations."

/-- All lines of two locations in one file. -/
def Location.add (a b : Location) : Except LocationClash Location :=
  if a.path = b.path then .ok ⟨a.path, sortLines (a.lines ++ b.lines)⟩
  else .error ⟨a.path, b.path⟩

def Location.text (location : Location) : String :=
  if location.lines = [] then location.path
  else location.path ++ ":" ++ joinTexts "," (location.lines.map intText)

end ShellSurvey
