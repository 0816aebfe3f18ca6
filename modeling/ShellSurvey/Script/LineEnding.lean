import ShellSurvey.Text.Utf8

namespace ShellSurvey

/-- How the first line of a file ends. A lone carriage return only ends a line in a file without any
line feed. -/
inductive LineEnding where
  | none
  | lf
  | crlf
  | cr
  deriving DecidableEq, Repr

def LineEnding.all : List LineEnding := [.none, .lf, .crlf, .cr]

def LineEnding.text : LineEnding → String
  | .none => ""
  | .lf => "\n"
  | .crlf => "\r\n"
  | .cr => "\r"

def LineEnding.ofText? (text : String) : Option LineEnding :=
  LineEnding.all.find? (·.text = text)

theorem LineEnding.ofText?_text (ending : LineEnding) :
    LineEnding.ofText? ending.text = some ending := by
  cases ending <;> decide

def lineFeed : UInt8 := 10

def carriageReturn : UInt8 := 13

/-- The ending of a line read up to a line feed or to the end of its file. -/
def LineEnding.ofLine (line : Bytes) : LineEnding :=
  match line.reverse with
  | 10 :: 13 :: _ => .crlf
  | 10 :: _ => .lf
  | 13 :: _ => .cr
  | _ => .none

/-- Whether a file ends with a POSIX end of line, if that was asked for. -/
inductive FinalEol where
  | notComputed
  | present
  | absent
  deriving DecidableEq, Repr

def FinalEol.isPresent? : FinalEol → Option Bool
  | .notComputed => Option.none
  | .present => some true
  | .absent => some false

/-- The last bytes of a file of a given size, at most two. -/
def tailOf (content : Bytes) (size : Nat) : Bytes :=
  let length := if 2 ≤ size then 2 else 1
  (content.drop (size - length)).take length

/-- Only a line feed at the very end, without a carriage return before it, counts. -/
def FinalEol.ofTail (tail : Bytes) : FinalEol :=
  match tail.reverse with
  | [10] => .present
  | 10 :: before :: _ => if before = 13 then .absent else .present
  | _ => .absent

/-- The end of a non-empty file, given its size. -/
def FinalEol.ofContent (content : Bytes) (size : Nat) : FinalEol := .ofTail (tailOf content size)

/-- The bytes of a file, some number of them at a time, until nothing is left to read. -/
def inChunks (size : Nat) (bytes : Bytes) : List Bytes :=
  if bytes.take size = [] then [] else bytes.take size :: inChunks size (bytes.drop size)
termination_by bytes.length
decreasing_by
  have filled := List.length_pos_iff.mpr ‹_›
  rw [List.length_take] at filled
  rw [List.length_drop]
  omega

/-- How many bytes are looked through at a time. -/
def chunkSize : Nat := 1048576

/-- Looks through chunks up to the first with a carriage return. -/
def anyHoldsCr (chunks : List Bytes) : Bool := chunks.any (·.contains carriageReturn)

def holdsCr (content : Bytes) : Bool := anyHoldsCr (inChunks chunkSize content)

end ShellSurvey
