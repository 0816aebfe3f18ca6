import ShellSurvey.Text.Split

namespace ShellSurvey

def isLineBreak (c : Char) : Bool :=
  let code := c.toNat
  (0x0A ≤ code && code ≤ 0x0D) || (0x1C ≤ code && code ≤ 0x1E) || code == 0x85 ||
    code == 0x2028 || code == 0x2029

/-- The lines to the right of a position together with the character at it. -/
structure LineScan where
  next : Option Char
  lines : List (List Char)

/-- One step to the left: a break opens a new empty line, a carriage return before a line feed is
part of that break, and any other character goes to the front of the current line. -/
def LineScan.step (breaks : Char → Bool) (c : Char) (scan : LineScan) : LineScan where
  next := some c
  lines :=
    if c = '\r' ∧ scan.next = some '\n' then scan.lines
    else if breaks c then [] :: scan.lines
    else consFirst c scan.lines

/-- The lines of a text for a given choice of breaks. -/
def linesBy (breaks : Char → Bool) (cs : List Char) : List (List Char) :=
  (cs.foldr (LineScan.step breaks) ⟨none, []⟩).lines

def splitLines (cs : List Char) : List (List Char) := linesBy isLineBreak cs

/-- Lines as an editor counts them: only line feeds, carriage returns and pairs of both end one. -/
def splitEditorLines (cs : List Char) : List (List Char) :=
  linesBy (fun c => c = '\n' || c = '\r') cs

end ShellSurvey
