import ShellSurvey.Proofs.Classify.Paired
import ShellSurvey.Proofs.Lexicon.Namesakes

namespace ShellSurvey

/-- A record under other names. -/
def Record.renamed (record : Record) (path filename basename extension : String) : Record :=
  { record with path := path, filename := filename, basename := basename, extension := extension }

/-- Two records that agree on all but the names. -/
def Record.Namesakes (record twin : Record) : Prop :=
  twin = { record with
    path := twin.path
    filename := twin.filename
    basename := twin.basename
    extension := twin.extension }

theorem Record.namesakes_renamed (record : Record) (path filename basename extension : String) :
    record.Namesakes (record.renamed path filename basename extension) := rfl

section

variable {lexicon : Lexicon} {extension filename : String} {record : Record}

theorem Record.judgeName_renamed
    (same : lexicon.SameNames record.extension record.filename extension filename)
    (path basename : String) :
    (record.renamed path filename basename extension).judgeName lexicon =
      (record.judgeName lexicon).renamed path filename basename extension := by
  have extensionless : (extension != "") = (record.extension != "") := by
    rw [Bool.eq_iff_iff, bne_iff_ne, bne_iff_ne, Ne, Ne, same.extensionless]
  simp only [judgeName, renamed, extensionless, same.isConfig, same.isMachineMade,
    same.filenameVerdict, same.extensionVerdict]

theorem Record.implyInterpreter_renamed
    (same : lexicon.SameNames record.extension record.filename extension filename)
    (path basename : String) :
    (record.renamed path filename basename extension).implyInterpreter lexicon =
      (record.implyInterpreter lexicon).renamed path filename basename extension := by
  simp only [implyInterpreter_eq, renamed, same.extensionInterpreter]

theorem Record.seeTail_renamed (path basename : String) (probes : Probes) (content : Bytes) :
    (record.renamed path filename basename extension).seeTail probes content =
      (record.seeTail probes content).renamed path filename basename extension := by
  unfold seeTail
  split <;> rfl

/-- The first line settles the same class under names that are looked up alike. -/
theorem Record.conclude_renamed
    (same : lexicon.SameNames record.extension record.filename extension filename)
    (path basename : String) (content : Bytes) :
    (record.renamed path filename basename extension).conclude lexicon content =
      (record.conclude lexicon content).renamed path filename basename extension := by
  unfold conclude heed
  dsimp only [renamed, assignFamily, namesAllowPosix]
  rw [← same.extensionInterpreter, ← same.extensionVerdict, ← same.filenameVerdict]
  split
  · simp only [interpreterName, ← same.isAltShell]
  · split <;> simp only [interpreterName, ← same.isAltShell]

theorem Record.settle_renamed
    (same : lexicon.SameNames record.extension record.filename extension filename)
    (path basename : String) (probes : Probes) (content : Bytes) :
    (record.renamed path filename basename extension).settle lexicon probes content =
      (record.settle lexicon probes content).renamed path filename basename extension := by
  have headSeen : (record.renamed path filename basename extension).seeHead lexicon content =
      (record.seeHead lexicon content).renamed path filename basename extension := rfl
  have tailSeen : lexicon.SameNames
      ((record.seeHead lexicon content).seeTail probes content).extension
      ((record.seeHead lexicon content).seeTail probes content).filename extension filename := by
    unfold seeTail
    split <;> exact same
  rw [settle, headSeen, seeTail_renamed, conclude_renamed tailSeen]
  rfl

theorem Record.seeAll_renamed (path basename : String) (probes : Probes) (content : Bytes) :
    (record.renamed path filename basename extension).seeAll probes content =
      (record.seeAll probes content).renamed path filename basename extension := by
  have asked : probes.wantScan (record.renamed path filename basename extension) =
    probes.wantScan record := rfl
  unfold seeAll
  rw [asked]
  split <;> rfl

/-- Under names that are looked up alike, an open file of which more is known stays the same. -/
theorem Record.abreast_renamed
    (same : lexicon.SameNames record.extension record.filename extension filename)
    (path basename : String) (probes : Probes) (content : Bytes) :
    Record.Abreast Namesakes lexicon probes content content record
      (record.renamed path filename basename extension) := by
  have settled := settle_renamed same path basename probes content
  refine {
    start := namesakes_renamed record path filename basename extension
    headSeen := namesakes_renamed (record.seeHead lexicon content) path filename basename extension
    settled := ?_
    complete := ?_
    wantTail := rfl
    wantScan := ?_ }
  · rw [settled]
    exact namesakes_renamed _ path filename basename extension
  · rw [settled, seeAll_renamed]
    exact namesakes_renamed _ path filename basename extension
  · rw [settled]
    rfl

end

theorem Record.ofName_renamed (path twin : String) (mode : Nat) :
    Record.ofName twin mode = (Record.ofName path mode).renamed twin (fileNameOf twin)
      (fileNameOf twin) (extensionOf (fileNameOf twin)) := rfl

theorem Record.namesakes_ofName (path twin : String) (mode : Nat) :
    (Record.ofName path mode).Namesakes (.ofName twin mode) := by
  rw [ofName_renamed path twin]
  exact namesakes_renamed _ _ _ _ _

/-- What the names tell of a file is the same under names that are looked up alike. -/
theorem Record.ofEntry_renamed {lexicon : Lexicon} {path twin : String}
    (same : lexicon.SameNames (extensionOf (fileNameOf path)) (fileNameOf path)
      (extensionOf (fileNameOf twin)) (fileNameOf twin)) (mode : Nat) :
    Record.ofEntry lexicon twin mode = (Record.ofEntry lexicon path mode).renamed twin
      (fileNameOf twin) (fileNameOf twin) (extensionOf (fileNameOf twin)) := by
  have named : lexicon.SameNames (ofName path mode).extension (ofName path mode).filename
      (extensionOf (fileNameOf twin)) (fileNameOf twin) := by
    simpa only [ofName] using same
  have judged : lexicon.SameNames ((ofName path mode).judgeName lexicon).extension
      ((ofName path mode).judgeName lexicon).filename
      (extensionOf (fileNameOf twin)) (fileNameOf twin) := by
    simpa only [judgeName] using named
  unfold ofEntry
  rw [ofName_renamed path twin, judgeName_renamed named, implyInterpreter_renamed judged]

/-- Editors' backups are told by a sign that has no upper and lower case. -/
theorem isBackupName_congr {name twin : String} (sameName : lowerCase name = lowerCase twin) :
    isBackupName name = isBackupName twin := by
  have tilde : IsSign '~' := by decide
  have same : name.toList.getLast? = some '~' ↔ twin.toList.getLast? = some '~' := by
    rw [← tilde.getLast?_lowerCase_iff name, sameName, tilde.getLast?_lowerCase_iff]
  rw [isBackupName, isBackupName, Bool.eq_iff_iff, beq_iff_eq, beq_iff_eq]
  exact same

/-- Files of one content and mode whose names are the same in lower case are classified alike in the
standard lexicon, whatever is asked for. Failures that strike the same stages break both off there. -/
theorem classify_renamed {world other : World} {path twin : String} {content : Bytes} {mode : Nat}
    (file : world.disk.lookup false path = .ok (.file content mode))
    (twinFile : other.disk.lookup false twin = .ok (.file content mode))
    (sameName : lowerCase (fileNameOf path) = lowerCase (fileNameOf twin))
    {blames : FileError → FileError → Prop}
    (struck : ∀ stage ∈ Stage.probing, Option.Rel blames
      (world.faults stage (stage.request path)) (other.faults stage (stage.request twin)))
    (probes : Probes) :
    EndsAlike blames Record.Namesakes (classify world .standard probes path)
        (classify other .standard probes twin) ∧
      (world.Calm path → ∃ record, classify world .standard probes path = .ok record) := by
  have same := Lexicon.sigmaFree_standard.sameNames sameName
  refine ⟨?_, fun calm => classify_completes file calm .standard probes⟩
  have unknown : Record.Namesakes { path := path } { path := twin } := rfl
  have named := Record.namesakes_ofName path twin mode
  refine classify_alike file twinFile struck (isBackupName_congr sameName) unknown named ?_
  rw [Record.ofEntry_renamed same]
  refine Record.abreast_renamed ?_ _ _ probes content
  rw [Record.filename_ofEntry, Record.extension_ofEntry]
  exact same

/-- A script under a name in small letters, and under one with a capital extension and the sign of the
kelvin for a letter. -/
def kelvinDisk : Disk where
  entries := [
    ("k.sh", .file [0x23, 0x21, 0x2F, 0x62, 0x69, 0x6E, 0x2F, 0x73, 0x68, 0x0A] 0o755),
    ("\u212A.SH", .file [0x23, 0x21, 0x2F, 0x62, 0x69, 0x6E, 0x2F, 0x73, 0x68, 0x0A] 0o755)]
  ordered := by
    refine ⟨?_, trivial, ?_, trivial, trivial⟩
    · simp only [List.mem_singleton, forall_eq]
      decide
    · simp

theorem classify_renamed_kelvin :
    let world := World.ofDisk kelvinDisk
    ∃ record twin, classify world .standard {} "k.sh" = .ok record ∧
      classify world .standard {} "\u212A.SH" = .ok twin ∧ record.Namesakes twin := by
  intro world
  have file : world.disk.lookup false "k.sh" =
      .ok (.file [0x23, 0x21, 0x2F, 0x62, 0x69, 0x6E, 0x2F, 0x73, 0x68, 0x0A] 0o755) := by
    refine Disk.lookup_name rfl ?_ ?_ ?_ ?_ ?_ ?_ <;> decide
  have twinFile : world.disk.lookup false "\u212A.SH" =
      .ok (.file [0x23, 0x21, 0x2F, 0x62, 0x69, 0x6E, 0x2F, 0x73, 0x68, 0x0A] 0o755) := by
    refine Disk.lookup_name rfl ?_ ?_ ?_ ?_ ?_ ?_ <;> decide
  have sameName : lowerCase (fileNameOf "k.sh") = lowerCase (fileNameOf "\u212A.SH") := by
    decide +kernel
  have spared : ∀ stage ∈ Stage.probing, Option.Rel Eq
      (world.faults stage (stage.request "k.sh")) (world.faults stage (stage.request "\u212A.SH")) :=
    fun _ _ => .none
  obtain ⟨alike, completes⟩ := classify_renamed file twinFile sameName spared {}
  obtain ⟨record, classified⟩ := completes fun _ _ => rfl
  rw [classified] at alike
  obtain ⟨twin, twinClassified, same⟩ := alike.of_ok
  exact ⟨record, twin, classified, twinClassified, same⟩

end ShellSurvey
