import ShellSurvey.CommandLine.Run
import ShellSurvey.Snapshot

def main (args : List String) : IO UInt32 := do
  match ShellSurvey.World.ofText? (← (← IO.getStdin).readToEnd) with
  | none =>
    (← IO.getStderr).putStr "The snapshot cannot be read.\n"
    return 2
  | some world =>
    let run := ShellSurvey.runCommandLine world args
    (← IO.getStdout).putStr run.out
    (← IO.getStderr).putStr (run.err ++ run.ending.lastWords)
    return UInt32.ofNat run.ending.code
