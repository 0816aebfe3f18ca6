import Mathlib.Data.List.Find
import ShellSurvey.Lexicon.Standard
import ShellSurvey.Proofs.Classify.Course

namespace ShellSurvey

/-- The first line of a content, without the byte order mark that the whole content starts with. -/
def candidateLine (lexicon : Lexicon) (content : Bytes) : Bytes :=
  upToLineFeed (content.drop (lexicon.markLength content))

/-- The interpreter of a file without a shebang. -/
def Interpreter.withoutShebang (implied : Option String) (posix : Bool) : Interpreter :=
  match implied, posix with
  | some name, _ => .known name
  | none, true => .genericPosix
  | none, false => .unresolved

/-- A record classifies a file of some name whose first line is known. -/
structure Record.Classifies (lexicon : Lexicon) (filename : String) (line : Bytes)
    (record : Record) : Prop where
  announced : [0x23, 0x21] <+: line → ∃ read,
    Shebang.parse? lexicon (lexicon.extensionInterpreter (extensionOf filename)) (lineText line) =
      some read ∧
    record.interpreter = read.interpreter ∧ record.interpreterFlags = read.flags ∧
    (record.posix = true ↔
      lexicon.interpreterVerdicts.lookup (lowerCase read.interpreter.name) = some true ∧
      lexicon.extensionVerdict (extensionOf filename) ≠ some false ∧
      lexicon.filenameVerdict filename ≠ some false)
  unannounced : ¬ [0x23, 0x21] <+: line →
    record.posix = (lexicon.filenameVerdict filename).getD
      ((lexicon.extensionVerdict (extensionOf filename)).getD false) ∧
    record.interpreter = .withoutShebang (lexicon.extensionInterpreter (extensionOf filename))
      record.posix ∧
    record.interpreterFlags = []
  bash : record.bash = lexicon.isFullBash record.interpreter.name
  ksh : record.ksh = lexicon.isKornShell record.interpreter.name
  altShellScript : record.altShellScript = true ↔ record.posix = false ∧
    (lowerCase record.interpreter.name ∈ lexicon.altInterpreters ∨
      lowerCase (extensionOf filename) ∈ lexicon.altExtensions ∨
      lowerCase filename ∈ lexicon.altFilenames)

/-- The first bytes suffice to tell a byte order mark. -/
theorem Lexicon.markLength_take (lexicon : Lexicon) (content : Bytes) :
    lexicon.markLength (content.take longestMark) = lexicon.markLength content := by
  unfold markLength
  congr 1
  refine List.find?_congr fun length member => ?_
  have short : length ≤ longestMark := by
    revert length
    decide
  have fits : length ≤ (content.take longestMark).length ↔ length ≤ content.length := by
    rw [List.length_take]
    omega
  rw [List.take_take, Nat.min_eq_left short]
  simp only [fits]

theorem FirstLine.line_ofContent (lexicon : Lexicon) (content : Bytes) :
    (FirstLine.ofContent lexicon content).line = candidateLine lexicon content := by
  rw [candidateLine, ← lexicon.markLength_take content]
  rfl

theorem Lexicon.readsPosix_iff (lexicon : Lexicon) (interpreter : String) :
    lexicon.readsPosix interpreter = true ↔
      lexicon.interpreterVerdicts.lookup (lowerCase interpreter) = some true := by
  unfold readsPosix
  cases lexicon.interpreterVerdicts.lookup (lowerCase interpreter) with
  | none => simp
  | some verdict => simp

theorem getD_true_iff (verdict : Option Bool) : verdict.getD true = true ↔ verdict ≠ some false := by
  cases verdict with
  | none => simp
  | some verdict => simp

theorem Record.namesAllowPosix_iff (lexicon : Lexicon) (record : Record) :
    record.namesAllowPosix lexicon = true ↔
      lexicon.extensionVerdict record.extension ≠ some false ∧
      lexicon.filenameVerdict record.filename ≠ some false := by
  rw [namesAllowPosix, Bool.and_eq_true, getD_true_iff, getD_true_iff]

theorem Lexicon.isAltShell_iff (lexicon : Lexicon) (interpreter extension filename : String) :
    lexicon.isAltShell interpreter extension filename = true ↔
      lowerCase interpreter ∈ lexicon.altInterpreters ∨
      lowerCase extension ∈ lexicon.altExtensions ∨ lowerCase filename ∈ lexicon.altFilenames := by
  simp only [isAltShell, Bool.or_eq_true, List.contains_eq_mem, decide_eq_true_eq, or_assoc]

theorem Record.altShellScript_assignFamily (lexicon : Lexicon) (record : Record) :
    (record.assignFamily lexicon).altShellScript = true ↔ record.posix = false ∧
      (lowerCase record.interpreter.name ∈ lexicon.altInterpreters ∨
        lowerCase record.extension ∈ lexicon.altExtensions ∨
        lowerCase record.filename ∈ lexicon.altFilenames) := by
  rw [← lexicon.isAltShell_iff, ← Bool.not_eq_true', ← Bool.and_eq_true]
  rfl

theorem Interpreter.withoutShebang_eq (implied : Option String) (posix : Bool) :
    (if posix && implied.isNone then .genericPosix else (implied.map known).getD unresolved) =
      withoutShebang implied posix := by
  cases implied with
  | some name => simp [withoutShebang]
  | none => cases posix <;> rfl

/-- A record that holds what a file name tells, before anything else settles the class. -/
structure Record.Told (lexicon : Lexicon) (filename : String) (record : Record) : Prop where
  named : record.filename = filename
  extension : record.extension = extensionOf filename
  posix : record.posix = (lexicon.filenameVerdict filename).getD
    ((lexicon.extensionVerdict (extensionOf filename)).getD false)
  interpreter : record.interpreter =
    ((lexicon.extensionInterpreter (extensionOf filename)).map .known).getD .unresolved
  flags : record.interpreterFlags = []

theorem Record.told_ofEntry (lexicon : Lexicon) (path : String) (mode : Nat) :
    (Record.ofEntry lexicon path mode).Told lexicon (fileNameOf path) := by
  unfold ofEntry
  rw [implyInterpreter_eq]
  refine ⟨rfl, ?_, ?_, ?_, rfl⟩
  · simp only [judgeName, ofName]
  · simp only [judgeName, ofName, Option.getD_or]
  · simp only [judgeName, ofName]

theorem Record.Told.seeHead {lexicon : Lexicon} {filename : String} {record : Record}
    (told : record.Told lexicon filename) (content : Bytes) :
    (record.seeHead lexicon content).Told lexicon filename := { told with }

theorem Record.Told.seeTail {lexicon : Lexicon} {filename : String} {record : Record}
    (told : record.Told lexicon filename) (probes : Probes) (content : Bytes) :
    (record.seeTail probes content).Told lexicon filename := by
  unfold Record.seeTail
  split
  · exact { told with }
  · exact told

/-- What the names tell is classified by the first line. -/
theorem Record.Told.conclude {lexicon : Lexicon} {filename : String} {record : Record}
    (told : record.Told lexicon filename) (content : Bytes) :
    (record.conclude lexicon content).Classifies lexicon filename
      (candidateLine lexicon content) := by
  obtain ⟨rfl, extension, posix, interpreter, flags⟩ := told
  unfold Record.conclude
  rw [FirstLine.line_ofContent]
  rcases record.heed_cases lexicon (candidateLine lexicon content) with
    ⟨read, shebang, parsed, heeded⟩ | ⟨noShebang, heeded⟩
  · rw [heeded]
    refine ⟨fun _ => ⟨read, extension ▸ parsed, rfl, rfl, ?_⟩, absurd shebang, rfl, rfl, ?_⟩
    · rw [← extension, ← lexicon.readsPosix_iff, ← record.namesAllowPosix_iff lexicon,
        ← Bool.and_eq_true]
      rfl
    · rw [← extension]
      exact altShellScript_assignFamily lexicon _
  · rw [heeded]
    refine ⟨fun shebang => absurd shebang noShebang, fun _ => ⟨posix, ?_, flags⟩, rfl, rfl, ?_⟩
    · rw [← Interpreter.withoutShebang_eq, ← interpreter, ← extension]
      rfl
    · rw [← extension]
      exact altShellScript_assignFamily lexicon _

theorem Record.Classifies.seeAll {lexicon : Lexicon} {filename : String} {line : Bytes}
    {record : Record} (classified : record.Classifies lexicon filename line) (probes : Probes)
    (content : Bytes) : (record.seeAll probes content).Classifies lexicon filename line := by
  unfold Record.seeAll
  split
  · exact { classified with }
  · exact classified

/-- Without failures, the verdicts on the names, the interpreter that the extension implies and the
first line classify a regular file. -/
theorem classify_classifies {world : World} {lexicon : Lexicon} {probes : Probes} {path : String}
    {content : Bytes} {mode : Nat}
    (file : world.disk.lookup false path = .ok (.file content mode))
    (noBackup : isBackupName (fileNameOf path) = false) (calm : world.Calm path) :
    ∃ record, classify world lexicon probes path = .ok record ∧
      record.Classifies lexicon (fileNameOf path) (candidateLine lexicon content) := by
  have told := Record.told_ofEntry lexicon path mode
  have settled := ((told.seeHead content).seeTail probes content).conclude content
  exact ⟨_, classify_calm file noBackup calm, settled.seeAll probes content⟩

theorem classify_classifies_script :
    ∃ record,
      classify (.ofDisk scriptDisk) .standard { carriageReturns := true } "deploy.sh" =
        .ok record ∧
      record.Classifies .standard "deploy.sh"
        [0x23, 0x21, 0x2F, 0x62, 0x69, 0x6E, 0x2F, 0x73, 0x68, 0x0D, 0x0A] := by
  have named : fileNameOf "deploy.sh" = "deploy.sh" := by decide
  have line : candidateLine .standard
      [0x23, 0x21, 0x2F, 0x62, 0x69, 0x6E, 0x2F, 0x73, 0x68, 0x0D, 0x0A] =
      [0x23, 0x21, 0x2F, 0x62, 0x69, 0x6E, 0x2F, 0x73, 0x68, 0x0D, 0x0A] := by decide
  obtain ⟨record, classified, classifies⟩ := classify_classifies scriptDisk_lookup (by decide)
    scriptDisk_calm
  rw [named, line] at classifies
  exact ⟨record, classified, classifies⟩

end ShellSurvey
