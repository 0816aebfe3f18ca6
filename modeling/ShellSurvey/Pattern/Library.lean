import ShellSurvey.Text.Quoted

namespace ShellSurvey

/-- Why a line is no pattern: nothing is left of it or a backslash escapes nothing, or a range of
characters runs backwards. -/
inductive PatternFlaw where
  | invalid (line : String)
  | backwardRange
  deriving DecidableEq, Repr

def PatternFlaw.message : PatternFlaw → String
  | .invalid line => "Invalid git pattern: " ++ quoted line
  | .backwardRange => "bad character range"

/-- A pattern skips the paths it matches, or keeps them. -/
structure Pattern where
  keeps : Bool
  holds : String → Bool

/-- A library of patterns: the pattern of a single line, for some lines have none, and the test of paths
that it makes of several lines. -/
class PatternLibrary where
  pattern? : String → Except PatternFlaw (Option Pattern)
  compile : List String → Except PatternFlaw (String → Bool)

/-- The last pattern that matches decides; no pattern, no skipping. -/
def skippedBy (patterns : List Pattern) (text : String) : Bool :=
  match patterns.reverse.find? (·.holds text) with
  | some pattern => !pattern.keeps
  | none => false

end ShellSurvey
