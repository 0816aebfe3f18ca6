import ShellSurvey.Disk.Lookup
import ShellSurvey.Number.Power
import ShellSurvey.Script.LineEnding

namespace ShellSurvey

/-- Why the end of a file cannot be looked at. -/
inductive FileEndFlaw where
  | emptyFile (path : String)
  | offsetTooLarge
  | refused (refusal : Refusal)
  deriving DecidableEq, Repr

def FileEndFlaw.message : FileEndFlaw → String
  | .emptyFile path => "Cannot probe the end of empty file " ++ path
  | .offsetTooLarge => "cannot fit 'int' into an offset-sized integer"
  | .refused refusal => refusal.message

/-- No file reaches so far. -/
def offsetLimit : Int := twoTo 63

/-- The end of a file of a given size, which need not be its true size. -/
def Disk.finalEol (disk : Disk) (path : String) (size : Int) : Except FileEndFlaw FinalEol :=
  if size ≤ 0 then .error (.emptyFile path)
  else
    match disk.content path with
    | .error refusal => .error (.refused refusal)
    | .ok content =>
      if offsetLimit ≤ size - 2 then .error .offsetTooLarge
      else .ok (.ofContent content size.toNat)

end ShellSurvey
