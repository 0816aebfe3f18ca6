import ShellSurvey.Lexicon.Basic
import ShellSurvey.Script.LineEnding
import ShellSurvey.Text.Blank

namespace ShellSurvey

/-- The first line, byte order mark aside and line ending included. -/
structure FirstLine where
  marked : Bool
  line : Bytes
  ending : LineEnding
  deriving DecidableEq, Repr

/-- The bytes up to and including the first line feed, or all of them. -/
def upToLineFeed (bytes : Bytes) : Bytes :=
  bytes.takeWhile (· ≠ lineFeed) ++ (bytes.dropWhile (· ≠ lineFeed)).take 1

def FirstLine.ofContent (lexicon : Lexicon) (content : Bytes) : FirstLine :=
  let mark := lexicon.markLength (content.take longestMark)
  let line := upToLineFeed (content.drop mark)
  { marked := 0 < mark, line := line, ending := .ofLine line }

/-- What a first line says about its interpreter: a shebang to be read, the same with its two signs
flipped, which is reported and never read, or nothing. -/
inductive Announcement where
  | proper (text : String)
  | flipped (text : String)
  | missing
  deriving DecidableEq, Repr

def Announcement.text : Announcement → String
  | .proper text => text
  | .flipped text => text
  | .missing => ""

def Announcement.parseable : Announcement → Bool
  | .proper _ => true
  | .flipped _ => false
  | .missing => false

/-- The text of a line without the line feeds and carriage returns at its end. -/
def lineText (line : Bytes) : String :=
  .ofList (decodeLossy (dropWhileEnd (fun b => b = lineFeed || b = carriageReturn) line))

def Announcement.ofLine (line : Bytes) : Announcement :=
  match line with
  | 0x23 :: 0x21 :: _ => .proper (lineText line)
  | 0x21 :: 0x23 :: _ => .flipped (lineText line)
  | _ => .missing

end ShellSurvey
