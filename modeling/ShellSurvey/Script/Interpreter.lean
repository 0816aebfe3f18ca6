namespace ShellSurvey

/-- The name under which a shell of unknown dialect goes. -/
def genericName : String := "generic-sh"

/-- The program that reads a script: one known by name, some POSIX shell, or nobody knows. -/
inductive Interpreter where
  | known (name : String)
  | genericPosix
  | unresolved
  deriving DecidableEq, Repr

def Interpreter.name : Interpreter → String
  | .known name => name
  | .genericPosix => genericName
  | .unresolved => ""

def Interpreter.ofName (name : String) : Interpreter :=
  if name = "" then .unresolved
  else if name = genericName then .genericPosix
  else .known name

theorem Interpreter.name_ofName (name : String) : (ofName name).name = name := by
  unfold ofName
  split
  · next same => exact same.symm
  · split
    · next same => exact same.symm
    · rfl

end ShellSurvey
