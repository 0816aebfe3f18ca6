import ShellSurvey.Classify
import ShellSurvey.CommandLine.Grammar
import ShellSurvey.CommandLine.Help
import ShellSurvey.CommandLine.Parse
import ShellSurvey.CommandLine.Run
import ShellSurvey.Console
import ShellSurvey.Disk.Basic
import ShellSurvey.Disk.Edit
import ShellSurvey.Disk.FinalEol
import ShellSurvey.Disk.Lookup
import ShellSurvey.Exclusion
import ShellSurvey.FileError
import ShellSurvey.Finding.Basic
import ShellSurvey.Finding.Folded
import ShellSurvey.Finding.Identifier
import ShellSurvey.Finding.Location
import ShellSurvey.Finding.Template
import ShellSurvey.Json.Basic
import ShellSurvey.Json.Display
import ShellSurvey.Json.Printer
import ShellSurvey.Json.Reader
import ShellSurvey.Lexicon.Basic
import ShellSurvey.Lexicon.Standard
import ShellSurvey.Linter
import ShellSurvey.Main
import ShellSurvey.Number.Binary64
import ShellSurvey.Number.Shortest
import ShellSurvey.Path
import ShellSurvey.Pattern.Basic
import ShellSurvey.Pattern.Compile
import ShellSurvey.Proofs.Classify.Coherence
import ShellSurvey.Proofs.Classify.Course
import ShellSurvey.Proofs.Classify.Endings
import ShellSurvey.Proofs.Classify.Faults
import ShellSurvey.Proofs.Classify.LineEnds
import ShellSurvey.Proofs.Classify.Paired
import ShellSurvey.Proofs.Classify.Probed
import ShellSurvey.Proofs.Classify.Reference
import ShellSurvey.Proofs.Classify.Renamed
import ShellSurvey.Proofs.Classify.Sight
import ShellSurvey.Proofs.Classify.Veto
import ShellSurvey.Proofs.Console.Messages
import ShellSurvey.Proofs.Disk.NormalForm
import ShellSurvey.Proofs.Disk.Removal
import ShellSurvey.Proofs.Disk.Tree
import ShellSurvey.Proofs.Disk.Vacancy
import ShellSurvey.Proofs.Exclusion.FileOrder
import ShellSurvey.Proofs.Exclusion.Sum
import ShellSurvey.Proofs.Finding.Folding
import ShellSurvey.Proofs.Finding.Merging
import ShellSurvey.Proofs.Finding.Runs
import ShellSurvey.Proofs.Json.Equality
import ShellSurvey.Proofs.Json.Printable
import ShellSurvey.Proofs.Json.RoundTrip
import ShellSurvey.Proofs.Json.Scalars
import ShellSurvey.Proofs.Lexicon.Namesakes
import ShellSurvey.Proofs.Lint.Findings
import ShellSurvey.Proofs.Lint.Gates
import ShellSurvey.Proofs.Lint.Guarded
import ShellSurvey.Proofs.Lint.Kinds
import ShellSurvey.Proofs.Lint.LineEnds
import ShellSurvey.Proofs.Lint.Spelling
import ShellSurvey.Proofs.Number.Size
import ShellSurvey.Proofs.Pattern.RuleLines
import ShellSurvey.Proofs.Record.Decoding
import ShellSurvey.Proofs.Record.RoundTrip
import ShellSurvey.Proofs.Record.Settled
import ShellSurvey.Proofs.Script.Announcement
import ShellSurvey.Proofs.Script.SpacedWords
import ShellSurvey.Proofs.Survey.Alike
import ShellSurvey.Proofs.Survey.Isolation
import ShellSurvey.Proofs.Survey.Queue
import ShellSurvey.Proofs.Survey.Unprobed
import ShellSurvey.Proofs.Survey.Yield
import ShellSurvey.Proofs.Task.Completion
import ShellSurvey.Proofs.Task.DumpLines
import ShellSurvey.Proofs.Task.FindDump
import ShellSurvey.Proofs.Task.LintOutput
import ShellSurvey.Proofs.Text.CarriageReturns
import ShellSurvey.Proofs.Text.Lowered
import ShellSurvey.Proofs.Walk.Coverage
import ShellSurvey.Proofs.Walk.Descent
import ShellSurvey.Proofs.Walk.Names
import ShellSurvey.Proofs.Walk.Tour
import ShellSurvey.Record.Basic
import ShellSurvey.Record.Decode
import ShellSurvey.Record.Loose
import ShellSurvey.Record.Misfit
import ShellSurvey.Rule.Content
import ShellSurvey.Rule.Misfit
import ShellSurvey.Rule.Property
import ShellSurvey.Rule.Validity
import ShellSurvey.Script.FirstLine
import ShellSurvey.Script.Interpreter
import ShellSurvey.Script.LineEnding
import ShellSurvey.Script.Shebang
import ShellSurvey.Snapshot
import ShellSurvey.Survey
import ShellSurvey.Task.Advise
import ShellSurvey.Task.Dump
import ShellSurvey.Task.Find
import ShellSurvey.Task.Lint
import ShellSurvey.Task.Report
import ShellSurvey.Text.Blank
import ShellSurvey.Text.CaseTable
import ShellSurvey.Text.Digit
import ShellSurvey.Text.DigitTable
import ShellSurvey.Text.Hex
import ShellSurvey.Text.Lines
import ShellSurvey.Text.LowerCase
import ShellSurvey.Text.PrintableTable
import ShellSurvey.Text.Quoted
import ShellSurvey.Text.Split
import ShellSurvey.Text.Utf8
import ShellSurvey.Validator
import ShellSurvey.Walk
import ShellSurvey.World
import ShellSurvey.Proofs.Content.ByteOrderMark
import ShellSurvey.Proofs.Content.Errtrace
import ShellSurvey.Proofs.Content.Verdicts
import ShellSurvey.Proofs.Content.Words
import ShellSurvey.Proofs.Content.TopLines
import ShellSurvey.Proofs.Content.FirstCommand
import ShellSurvey.Proofs.Content.Gaps
import ShellSurvey.Proofs.Content.GapReplaced
import ShellSurvey.Proofs.Lint.Launch
import ShellSurvey.Proofs.Lint.Properties
import ShellSurvey.Proofs.Lint.Modulino
import ShellSurvey.Proofs.CommandLine.FirstFlag
import ShellSurvey.Proofs.Task.ModulinoLint
import ShellSurvey.Proofs.Classify.AnyShell
import ShellSurvey.Proofs.Lint.Validation
import ShellSurvey.Proofs.Exclusion.Standard
import ShellSurvey.Proofs.Walk.Dependencies
import ShellSurvey.Proofs.Lexicon.Marks
import ShellSurvey.Proofs.Walk.Dashes
import ShellSurvey.Proofs.Task.ScriptArguments
import ShellSurvey.Finding.Holdings
import ShellSurvey.Proofs.Finding.Sharing
