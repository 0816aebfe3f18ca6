import ShellSurvey.Text.Blank
import ShellSurvey.Text.Split

namespace ShellSurvey

structure Path where
  slashes : Nat
  parts : List String
  deriving DecidableEq, Repr

/-- The names of a path text between its slashes, empty ones included. -/
def pathNames (text : String) : List String :=
  (splitAt '/' text.toList).map String.ofList

def Path.ofText (text : String) : Path where
  slashes :=
    match (text.toList.takeWhile (· = '/')).length with
    | 0 => 0
    | 2 => 2
    | _ => 1
  parts := (pathNames text).filter fun name => name ≠ "" ∧ name ≠ "."

/-- The path of nothing below the current directory. -/
def Path.here : Path := ⟨0, []⟩

def Path.text (path : Path) : String :=
  if path.slashes = 0 ∧ path.parts = [] then "."
  else .ofList (List.replicate path.slashes '/' ++ (joinTexts "/" path.parts).toList)

/-- The path of an entry inside the directory at a path. -/
def Path.child (path : Path) (name : String) : Path := { path with parts := path.parts ++ [name] }

/-- The part of a path text after its last slash, slashes at the end aside; the whole text if that
is empty. -/
def fileNameOf (text : String) : String :=
  let name := ((splitAt '/' (dropWhileEnd (· = '/') text.toList)).getLast?).getD []
  if name = [] then text else .ofList name

/-- The part of a text after its last slash. -/
def baseName (text : String) : String :=
  .ofList (((splitAt '/' text.toList).getLast?).getD [])

end ShellSurvey
