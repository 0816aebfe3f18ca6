import ShellSurvey.Script.Interpreter
import ShellSurvey.Script.LineEnding

namespace ShellSurvey

structure Record where
  path : String := ""
  filename : String := ""
  basename : String := ""
  extension : String := ""
  symlink : Bool := false
  shebang : String := ""
  interpreter : Interpreter := .unresolved
  interpreterFlags : List String := []
  lineEnding : LineEnding := .none
  finalEol : FinalEol := .notComputed
  containsCr : Bool := false
  permissions : Int := 0
  directory : Bool := false
  ownerExecutable : Bool := false
  library : Bool := false
  bom : Bool := false
  posix : Bool := false
  bash : Bool := false
  ksh : Bool := false
  altShellScript : Bool := false
  coreConfiguration : Bool := false
  machineGenerated : Bool := false
  deriving DecidableEq, Repr

def Record.interpreterName (record : Record) : String := record.interpreter.name

/-- Execute bits for owner, group and others. -/
def anyExecute : Nat := 0o111

def ownerExecute : Nat := 0o100

/-- Some bit of a mask is set among the nine permission bits. -/
def hasBits (permissions : Int) (mask : Nat) : Bool :=
  ((permissions % 512).toNat &&& mask) != 0

/-- The text from the last dot on, the dot included; empty without a dot. -/
def extensionOf (filename : String) : String :=
  let fromEnd := filename.toList.reverse
  if fromEnd.contains '.' then .ofList ('.' :: (fromEnd.takeWhile (· ≠ '.')).reverse) else ""

end ShellSurvey
