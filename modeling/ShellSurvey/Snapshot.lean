import ShellSurvey.Disk.Edit
import ShellSurvey.Json.Reader
import ShellSurvey.Text.Blank
import ShellSurvey.Text.Hex
import ShellSurvey.World

namespace ShellSurvey

/-- Bytes from pairs of digits, onto those read so far in reverse. -/
def bytesOfHexOnto (done : Bytes) : List Char → Option Bytes
  | [] => some done.reverse
  | [_] => none
  | high :: low :: rest =>
    match hexValue? high, hexValue? low with
    | some high, some low => bytesOfHexOnto (UInt8.ofNat (high * 16 + low) :: done) rest
    | _, _ => none

def bytesOfHex? (text : String) : Option Bytes := bytesOfHexOnto [] text.toList

/-- A run of repeated bytes, as a pair of digits and a count. -/
def Json.segment? : Json → Option Bytes
  | .arr [.str digits, .int count] =>
    (bytesOfHex? digits).map fun bytes => (List.replicate count.toNat bytes).flatten
  | _ => none

/-- The bytes of a content, given by their digits, as a text, or as segments. -/
def Json.bytes? (value : Json) : Option Bytes :=
  match value.member? "hex", value.member? "text", value.member? "segments" with
  | some (.str digits), _, _ => bytesOfHex? digits
  | none, some (.str text), _ => some text.toUTF8.data.toList
  | none, none, some (.arr segments) => (segments.mapM Json.segment?).map List.flatten
  | none, none, none => some []
  | _, _, _ => none

def octalDigit? (c : Char) : Option Nat :=
  if '0' ≤ c ∧ c ≤ '7' then some (c.toNat - 48) else none

/-- The number that octal digits write. -/
def octalValue? (text : String) : Option Nat :=
  text.toList.foldlM (fun value c => (octalDigit? c).map (value * 8 + ·)) 0

/-- The permissions of files that none are given for. -/
def defaultMode : Nat := 0o644

def Json.mode? (value : Json) : Option Nat :=
  match value.member? "mode" with
  | some (.str digits) => octalValue? digits
  | some _ => none
  | none => some defaultMode

/-- A member that is there and counts as something. -/
def Json.says (value : Json) (name : String) : Bool := ((value.member? name).map Json.present).getD false

/-- A value that describes an entry: a directory, a link, a pipe, or else a file. -/
def NewEntry.ofJson? (value : Json) : Option NewEntry :=
  if value.says "dir" then some .directory
  else
    match value.member? "link" with
    | some (.str target) => some (.link target)
    | some _ => none
    | none => do
      let mode ← value.mode?
      if value.says "fifo" then return .pipe mode else return .file (← value.bytes?) mode

/-- Places the entry that a value describes. -/
def Disk.placeJson? (disk : Disk) (value : Json) : Option Disk :=
  match value.member? "path" with
  | some (.str path) => (NewEntry.ofJson? value).map (disk.place path)
  | _ => none

/-- The disk with the described entries placed in their order. -/
def Disk.ofJson? (files : List Json) : Option Disk := files.foldlM Disk.placeJson? .empty

def Stage.name : Stage → String
  | .kind => "kind"
  | .status => "status"
  | .listing => "listing"
  | .head => "head"
  | .tail => "tail"
  | .scan => "scan"
  | .content => "content"

/-- A failure by the conventional name of its number; any other text is the failure itself. -/
def FileError.ofName (path name : String) : FileError :=
  match Errno.names.lookup name with
  | some errno => .system errno path
  | none => .other name

/-- The faults that an object tells, by stage and path. -/
def faultsOfJson (faults : Json) (stage : Stage) (path : String) : Option FileError :=
  match (faults.member? stage.name).bind (·.member? path) with
  | some (.str name) => some (.ofName path name)
  | _ => none

def ToolAnswer.ofJson (value : Json) : ToolAnswer :=
  let text (name : String) : String :=
    match value.member? name with
    | some (.str text) => text
    | _ => ""
  { code := ((value.member? "code").bind Json.integer?).getD 0
    out := text "stdout"
    err := text "stderr"
    removesScript := value.says "remove" }

/-- What a tool does to scripts that have no entry of their own. -/
def anyScript : String := "*"

/-- A tool that answers for the script that the last word of a command names. -/
def Tool.ofJson (runs : Json) : Tool := fun _ command =>
  let own := command.getLast?.bind runs.member?
  .answered ((own.or (runs.member? anyScript)).elim {} ToolAnswer.ofJson)

/-- The tools that an object tells, by program. -/
def toolsOfJson (tools : Json) (program : String) : Option Tool :=
  (tools.member? program).map Tool.ofJson

/-- The world that a value describes. -/
def World.ofJson? (value : Json) : Option World := do
  let files ← match value.member? "files" with
    | some (.arr files) => some files
    | some _ => none
    | none => some []
  return {
    disk := ← Disk.ofJson? files
    faults := faultsOfJson ((value.member? "faults").getD .null)
    tools := toolsOfJson ((value.member? "tools").getD .null) }

/-- The world of a snapshot in written form. Without any text there is nothing in it. -/
def World.ofText? (text : String) : Option World :=
  if text.toList.all isBlank then some (.ofDisk .empty)
  else (Json.parse text.length text).toOption.bind World.ofJson?

end ShellSurvey
