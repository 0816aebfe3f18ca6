import ShellSurvey.Disk.Lookup
import ShellSurvey.Text.Utf8

namespace ShellSurvey

/-- The kinds of request that may fail on their own account. The request for the kind of an entry asks
whether a path leads to a directory; a failure that only means that there is none is an answer to it. -/
inductive Stage where
  | kind
  | status
  | listing
  | head
  | tail
  | scan
  | content
  deriving DecidableEq, Repr

/-- How a tool ended, what it wrote, and whether it took the script away. -/
structure ToolAnswer where
  code : Int := 0
  out : String := ""
  err : String := ""
  removesScript : Bool := false
  deriving DecidableEq, Repr

/-- A run of a tool: it answers, or it writes what is no text, or it is never launched because the
system refuses the command. -/
inductive ToolRun where
  | answered (answer : ToolAnswer)
  | garbled (malformation : Malformation) (removesScript : Bool)
  | unlaunched (refusal : Refusal)
  deriving DecidableEq, Repr

/-- A tool is run on the disk as it is by then, with a whole command. -/
abbrev Tool := Disk → List String → ToolRun

/-- What breaks a task off: a request that is refused, or an answer that is no text. -/
inductive Interruption where
  | refused (refusal : Refusal)
  | garbled (malformation : Malformation)
  deriving DecidableEq, Repr

def Interruption.message : Interruption → String
  | .refused refusal => refusal.message
  | .garbled malformation => malformation.message

/-- What a survey runs in: a disk, the failures that strike requests to it, and the tools that can be
found. Names and texts are valid Unicode, only paths below the current directory name files, and a tree is
followed to any depth. -/
structure World where
  disk : Disk
  faults : Stage → String → Option FileError
  tools : String → Option Tool

/-- A world without failures and tools. -/
def World.ofDisk (disk : Disk) : World where
  disk := disk
  faults := fun _ _ => none
  tools := fun _ => none

/-- What a path names, a link at its end not followed. -/
def World.status (world : World) (path : String) : Except Refusal Node :=
  match world.faults .status path with
  | some error => .error (.failed error)
  | none => world.disk.lookup false path

/-- Runs a command with a program, if it can be found. -/
def World.launch (world : World) (program : String) (command : List String) : Option ToolRun :=
  (world.tools program).map fun tool => tool world.disk command

/-- The bytes behind a path, read at some stage. The request is made under the text `asked`. -/
def World.read (world : World) (stage : Stage) (asked path : String) : Except Refusal Bytes :=
  match world.faults stage asked with
  | some error => .error (.failed error)
  | none => world.disk.content path

end ShellSurvey
