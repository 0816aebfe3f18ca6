import ShellSurvey.Lexicon.Standard
import ShellSurvey.Proofs.Classify.Strict

namespace ShellSurvey

/-- What the fields of a record have to do with each other, whatever the record is of. -/
structure Record.Sound (record : Record) : Prop where
  exclusive : ¬ (record.posix = true ∧ record.altShellScript = true)
  named : record.basename = record.filename
  permissions : 0 ≤ record.permissions ∧ record.permissions ≤ 0o777
  ownerExecutable : record.ownerExecutable = true ↔ record.permissions.toNat &&& 0o100 ≠ 0
  library : record.library = true →
    record.ownerExecutable = false ∧ (record.coreConfiguration = true ∨ record.extension ≠ "")
  flags : record.interpreterFlags ≠ [] → ['#', '!'] <+: record.shebang.toList
  announced : record.shebang ≠ "" →
    ['#', '!'] <+: record.shebang.toList ∨ ['!', '#'] <+: record.shebang.toList

/-- A record of what was never looked into. -/
structure Record.Unread (record : Record) : Prop where
  interpreter : record.interpreter = .unresolved
  shebang : record.shebang = ""
  interpreterFlags : record.interpreterFlags = []
  lineEnding : record.lineEnding = .none
  finalEol : record.finalEol = .notComputed
  bom : record.bom = false
  bash : record.bash = false
  ksh : record.ksh = false
  altShellScript : record.altShellScript = false
  containsCr : record.containsCr = false

/-- A sound record tells nothing but the path of a directory, and a link is never followed. -/
structure Record.Coherent (record : Record) : Prop extends Record.Sound record where
  directory : record.directory = true → record = { path := record.path, directory := true }
  symlink : record.symlink = true → record.Unread

/-- A sound record of neither a directory nor a link. -/
structure Record.OfFile (record : Record) : Prop extends Record.Sound record where
  noDirectory : record.directory = false
  noLink : record.symlink = false

/-- The record of a file whose first line is not known yet. -/
structure Record.Begun (record : Record) : Prop extends Record.OfFile record where
  noFamily : record.altShellScript = false
  noFlags : record.interpreterFlags = []

theorem Record.OfFile.coherent {record : Record} (file : record.OfFile) : record.Coherent := by
  refine { file with directory := ?_, symlink := ?_ }
  · intro directory
    rw [file.noDirectory] at directory
    cases directory
  · intro link
    rw [file.noLink] at link
    cases link

/-- Nothing but a path is coherent. -/
theorem Record.coherent_path (path : String) : Record.Coherent { path := path } := by
  refine OfFile.coherent ?_
  refine { toSound := ?_, noDirectory := rfl, noLink := rfl }
  constructor <;> simp

theorem Record.coherent_directory (path : String) :
    Record.Coherent { path := path, directory := true } := by
  refine { toSound := ?_, directory := fun _ => rfl, symlink := nofun }
  constructor <;> simp

theorem hasBits_permissions (mode : Nat) (mask : Nat) :
    hasBits ((mode % 512 : Nat) : Int) mask = true ↔ mode % 512 &&& mask ≠ 0 := by
  have small : (((mode % 512 : Nat) : Int) % 512).toNat = mode % 512 := by omega
  rw [hasBits, small, bne_iff_ne]

theorem Record.begun_ofName (path : String) (mode : Nat) : (Record.ofName path mode).Begun := by
  refine {
    exclusive := nofun
    named := rfl
    permissions := ?_
    ownerExecutable := hasBits_permissions mode ownerExecute
    library := nofun
    flags := absurd rfl
    announced := absurd rfl
    noDirectory := rfl
    noLink := rfl
    noFamily := rfl
    noFlags := rfl }
  simp only [ofName]
  omega

theorem Record.Begun.judgeName {record : Record} (begun : record.Begun) (lexicon : Lexicon) :
    (record.judgeName lexicon).Begun := by
  refine { begun with exclusive := ?_, library := ?_ }
  · intro both
    exact absurd (both.2.symm.trans begun.noFamily) (by decide)
  · intro library
    simp only [Record.judgeName, Bool.and_eq_true, Bool.or_eq_true, bne_iff_ne,
      Bool.not_eq_true'] at library ⊢
    exact ⟨library.2, library.1⟩

theorem Record.unread_ofName (path : String) (mode : Nat) : (Record.ofName path mode).Unread := by
  constructor <;> rfl

theorem Record.Unread.judgeName {record : Record} (unread : record.Unread) (lexicon : Lexicon) :
    (record.judgeName lexicon).Unread := { unread with }

theorem Record.Begun.link {record : Record} (begun : record.Begun) (unread : record.Unread) :
    Record.Coherent { record with symlink := true } := by
  refine { begun with directory := ?_, symlink := fun _ => { unread with } }
  intro directory
  exact absurd (directory.symm.trans begun.noDirectory) (by decide)

theorem Record.Begun.special {record : Record} (begun : record.Begun) :
    Record.Coherent { record with posix := false } :=
  OfFile.coherent { begun with exclusive := nofun }

theorem Record.Begun.implyInterpreter {record : Record} (begun : record.Begun)
    (lexicon : Lexicon) : (record.implyInterpreter lexicon).Begun := by
  rw [implyInterpreter_eq]
  exact { begun with }

theorem Record.Begun.seeHead {record : Record} (begun : record.Begun) (lexicon : Lexicon)
    (content : Bytes) : (record.seeHead lexicon content).Begun := { begun with }

theorem Record.Begun.seeTail {record : Record} (begun : record.Begun) (probes : Probes)
    (content : Bytes) : (record.seeTail probes content).Begun := by
  unfold Record.seeTail
  split
  · exact { begun with }
  · exact begun

theorem Record.begun_ofEntry (lexicon : Lexicon) (path : String) (mode : Nat) :
    (Record.ofEntry lexicon path mode).Begun :=
  ((Record.begun_ofName path mode).judgeName lexicon).implyInterpreter lexicon

theorem Record.not_both_assignFamily (lexicon : Lexicon) (record : Record) :
    ¬ ((record.assignFamily lexicon).posix = true ∧
      (record.assignFamily lexicon).altShellScript = true) := by
  rintro ⟨posix, family⟩
  have noPosix := (Bool.and_eq_true_iff.mp family).1
  rw [show record.posix = true from posix] at noPosix
  cases noPosix

theorem Record.Begun.conclude {record : Record} (begun : record.Begun) (lexicon : Lexicon)
    (content : Bytes) : (record.conclude lexicon content).OfFile := by
  unfold Record.conclude
  rcases record.heed_cases lexicon (FirstLine.ofContent lexicon content).line with
    ⟨read, shebang, _, heeded⟩ | ⟨noShebang, heeded⟩
  · have starts := lineText_starts shebang
    rw [heeded]
    exact { begun with
      exclusive := not_both_assignFamily lexicon _
      flags := fun _ => starts
      announced := fun _ => Or.inl starts }
  · rw [heeded]
    exact { begun with
      exclusive := not_both_assignFamily lexicon _
      flags := fun some => absurd begun.noFlags some
      announced := fun announced => Or.inr (Announcement.text_flipped noShebang announced) }

theorem Record.OfFile.seeAll {record : Record} (file : record.OfFile) (probes : Probes)
    (content : Bytes) : (record.seeAll probes content).OfFile := by
  unfold Record.seeAll
  split
  · exact { file with }
  · exact file

/-- A classification ends with a coherent record, if by a failure then by one of the file system. -/
def EndsCoherently : Except Failure Record → Prop
  | .ok record => record.Coherent
  | .error failure => failure.record.Coherent ∧ ∃ error, failure.cause = .failed error

theorem EndsCoherently.failAt {record : Record} {next : Except Failure Record}
    (known : record.Coherent) (later : EndsCoherently next) (fault : Option FileError)
    (stage : Stage) : EndsCoherently (failAt fault stage record next) := by
  cases fault with
  | some error => exact ⟨known, error, rfl⟩
  | none => exact later

theorem Record.Begun.course {opened : Record} (begun : opened.Begun)
    (faults : Stage → Option FileError) (lexicon : Lexicon) (probes : Probes) (content : Bytes) :
    EndsCoherently (course faults lexicon probes content opened) := by
  have headSeen := begun.seeHead lexicon content
  have settled := (headSeen.seeTail probes content).conclude lexicon content
  have complete : EndsCoherently (.ok _) := (settled.seeAll probes content).coherent
  exact ((complete.failAt settled.coherent _ _).failAt headSeen.coherent _ _).failAt
    begun.coherent _ _

theorem Record.coherent_ofStatus? {lexicon : Lexicon} {path : String} {node : Node}
    {record : Record} (settled : Record.ofStatus? lexicon path node = some record) :
    record.Coherent := by
  have named := Record.begun_ofName path node.mode
  have judged := named.judgeName lexicon
  have unread := (Record.unread_ofName path node.mode).judgeName lexicon
  rcases Record.ofStatus?_cases settled with rfl | rfl | rfl | rfl
  · exact coherent_directory path
  · exact named.coherent
  · exact judged.link unread
  · exact judged.special

/-- However the requests about an entry fare, its classification ends coherently, and no step on the
way is taken on a value that it is not meant for. -/
theorem classify_endsCoherently {world : World} {path : String} {node : Node}
    (entry : world.disk.lookup false path = .ok node) (lexicon : Lexicon) (probes : Probes) :
    EndsCoherently (classify world lexicon probes path) ∧
      classifyStrictly world lexicon probes path =
        (classify world lexicon probes path).mapError .failed := by
  have noNul : holdsNul path = false := by
    cases nul : holdsNul path with
    | false => rfl
    | true =>
      rw [Disk.lookup, nul] at entry
      cases entry
  refine ⟨?_, classifyStrictly_eq world lexicon probes noNul⟩
  have unknown := Record.coherent_path path
  cases settled : Record.ofStatus? lexicon path node with
  | some record =>
    have complete : EndsCoherently (.ok record) := Record.coherent_ofStatus? settled
    rw [classify_settled entry settled]
    exact complete.failAt unknown _ _
  | none =>
    obtain ⟨noBackup, content, mode, rfl⟩ := Record.ofStatus?_eq_none settled
    have opened := Record.begun_ofEntry lexicon path mode
    rw [classify_file entry noBackup]
    exact (opened.course _ lexicon probes content).failAt unknown _ _

theorem classify_endsCoherently_unread :
    let world : World :=
      ⟨scriptDisk, fun stage path =>
        if stage = .head then some (.system .inputOutput path) else none, fun _ => none⟩
    EndsCoherently (classify world .standard {} "deploy.sh") ∧
      classifyStrictly world .standard {} "deploy.sh" =
        (classify world .standard {} "deploy.sh").mapError .failed := by
  intro world
  have entry : world.disk.lookup false "deploy.sh" = .ok (.file _ 0o755) := scriptDisk_lookup
  exact classify_endsCoherently entry .standard {}

end ShellSurvey
