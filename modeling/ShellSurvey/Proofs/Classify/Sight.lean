import Mathlib.Data.List.TakeWhile
import ShellSurvey.Proofs.Classify.Reference

namespace ShellSurvey

theorem ne_lineFeed_of_not_mem {line : Bytes} (unbroken : lineFeed ∉ line) :
    ∀ byte ∈ line, decide (byte ≠ lineFeed) = true := by
  intro byte member
  refine decide_eq_true ?_
  rintro rfl
  exact unbroken member

theorem upToLineFeed_append {line : Bytes} (unbroken : lineFeed ∉ line) (rest : Bytes) :
    upToLineFeed (line ++ lineFeed :: rest) = line ++ [lineFeed] := by
  have inside := ne_lineFeed_of_not_mem unbroken
  unfold upToLineFeed
  rw [List.takeWhile_append_of_pos inside, List.dropWhile_append_of_pos inside]
  simp

theorem upToLineFeed_of_not_mem {content : Bytes} (unbroken : lineFeed ∉ content) :
    upToLineFeed content = content := by
  have inside := ne_lineFeed_of_not_mem unbroken
  unfold upToLineFeed
  rw [List.takeWhile_eq_self_iff.mpr inside, List.dropWhile_eq_nil_iff.mpr inside]
  simp

/-- A content starts with a line, or all of it is one line without an end. -/
theorem upToLineFeed_cases (content : Bytes) :
    (∃ line rest, lineFeed ∉ line ∧ content = line ++ lineFeed :: rest) ∨
      upToLineFeed content = content := by
  by_cases broken : lineFeed ∈ content
  · obtain ⟨line, rest, split, unbroken⟩ := List.eq_append_cons_of_mem broken
    exact Or.inl ⟨line, rest, unbroken, split⟩
  · exact Or.inr (upToLineFeed_of_not_mem broken)

/-- No byte order mark goes on past the end of a line. -/
def Lexicon.MarksInLine (lexicon : Lexicon) : Prop :=
  ∀ mark ∈ lexicon.byteOrderMarks, lineFeed ∉ mark

theorem Lexicon.marksInLine_standard : Lexicon.standard.MarksInLine := by
  unfold MarksInLine
  decide

theorem Lexicon.markLength_le (lexicon : Lexicon) (content : Bytes) :
    lexicon.markLength content ≤ content.length := by
  unfold markLength
  cases found : markLengths.find? _ with
  | none => exact Nat.zero_le _
  | some length =>
    have marked := List.find?_some found
    simp only [Bool.and_eq_true, decide_eq_true_eq] at marked
    exact marked.1

/-- The bytes from one on that is in no mark decide about none. -/
theorem Lexicon.markLength_append {lexicon : Lexicon} {stop : UInt8}
    (unmarked : ∀ mark ∈ lexicon.byteOrderMarks, stop ∉ mark) (line rest : Bytes) :
    lexicon.markLength (line ++ stop :: rest) = lexicon.markLength line := by
  unfold markLength
  congr 1
  refine List.find?_congr fun length _ => ?_
  by_cases within : length ≤ line.length
  · have longer : length ≤ (line ++ stop :: rest).length := by
      rw [List.length_append]
      omega
    rw [List.take_append_of_le_length within, decide_eq_true longer, decide_eq_true within]
  · -- What reaches that far is no mark.
    have noMark : (line ++ stop :: rest).take length ∉ lexicon.byteOrderMarks := by
      obtain ⟨beyond, rfl⟩ : ∃ beyond, length = line.length + (beyond + 1) :=
        ⟨length - line.length - 1, by omega⟩
      rw [List.take_length_add_append, List.take_succ_cons]
      exact fun mark => unmarked _ mark (List.mem_append_right line List.mem_cons_self)
    rw [decide_eq_false within, Bool.false_and, List.contains_eq_mem, decide_eq_false noMark,
      Bool.and_false]

/-- The first line is the same whatever follows it. -/
theorem Lexicon.MarksInLine.ofContent_upToLineFeed {lexicon : Lexicon}
    (inLine : lexicon.MarksInLine) (content : Bytes) :
    FirstLine.ofContent lexicon (upToLineFeed content) = FirstLine.ofContent lexicon content := by
  rcases upToLineFeed_cases content with ⟨line, rest, unbroken, rfl⟩ | whole
  · have within := lexicon.markLength_le line
    have unmarked : lineFeed ∉ line.drop (lexicon.markLength line) :=
      fun member => unbroken (List.mem_of_mem_drop member)
    unfold FirstLine.ofContent
    simp only [upToLineFeed_append unbroken, lexicon.markLength_take,
      Lexicon.markLength_append inLine,
      List.drop_append_of_le_length within, upToLineFeed_append unmarked]
  · rw [whole]

/-- Unless more is asked for, the first line is all that counts of a content. -/
theorem course_unasked (faults : Stage → Option FileError) (lexicon : Lexicon) (content : Bytes)
    (opened : Record) :
    course faults lexicon {} content opened =
      failAt (faults .head) .head opened
        (.ok ((opened.seeHead lexicon content).conclude lexicon content)) := rfl

theorem course_congr_line {lexicon : Lexicon} {content more : Bytes}
    (sameLine : FirstLine.ofContent lexicon content = FirstLine.ofContent lexicon more)
    {faults others : Stage → Option FileError} (sameHead : faults .head = others .head)
    (opened : Record) :
    course faults lexicon {} content opened = course others lexicon {} more opened := by
  rw [course_unasked, course_unasked, sameHead]
  unfold Record.conclude Record.seeHead
  rw [sameLine]

/-- Two nodes that a status cannot tell apart. -/
inductive Node.SameStatus : Node → Node → Prop where
  | file (content more : Bytes) (mode : Nat) : SameStatus (.file content mode) (.file more mode)
  | pipe (mode : Nat) : SameStatus (.pipe mode) (.pipe mode)
  | link (target aim : String) : SameStatus (.link target) (.link aim)
  | directory (entries others : Listing) : SameStatus (.directory entries) (.directory others)

theorem Node.SameStatus.ofStatus? {node twin : Node} (same : node.SameStatus twin)
    (lexicon : Lexicon) (path : String) :
    Record.ofStatus? lexicon path node = Record.ofStatus? lexicon path twin := by
  cases same <;> rfl

/-- An entry that is classified without being opened. -/
def Node.Shut (path : String) : Node → Prop
  | .file _ _ => isBackupName (fileNameOf path) = true
  | _ => True

theorem Record.ofStatus?_of_shut {path : String} {node : Node} (shut : node.Shut path)
    (lexicon : Lexicon) : ∃ record, Record.ofStatus? lexicon path node = some record := by
  cases settled : Record.ofStatus? lexicon path node with
  | some record => exact ⟨record, rfl⟩
  | none =>
    obtain ⟨noBackup, content, mode, rfl⟩ := Record.ofStatus?_eq_none settled
    have backup : isBackupName (fileNameOf path) = true := shut
    rw [noBackup] at backup
    cases backup

section

variable {world other : World} {path : String}

theorem classify_congr_line {content more : Bytes} {mode : Nat}
    (file : world.disk.lookup false path = .ok (.file content mode))
    (twin : other.disk.lookup false path = .ok (.file more mode))
    (noBackup : isBackupName (fileNameOf path) = false)
    (sameLine : upToLineFeed content = upToLineFeed more)
    (sameStatus : world.faults .status path = other.faults .status path)
    (sameHead : world.faults .head (Stage.head.request path) =
      other.faults .head (Stage.head.request path)) :
    classify world .standard {} path = classify other .standard {} path := by
  have inLine := Lexicon.marksInLine_standard
  have sameFirst : FirstLine.ofContent .standard content = FirstLine.ofContent .standard more := by
    rw [← inLine.ofContent_upToLineFeed content, sameLine, inLine.ofContent_upToLineFeed]
  rw [classify_file file noBackup, classify_file twin noBackup, sameStatus]
  exact congrArg (failAt _ .status _) (course_congr_line sameFirst sameHead _)

theorem classify_congr_status {node twin : Node}
    (entry : world.disk.lookup false path = .ok node)
    (otherEntry : other.disk.lookup false path = .ok twin) (same : node.SameStatus twin)
    (shut : node.Shut path) (sameStatus : world.faults .status path = other.faults .status path)
    (lexicon : Lexicon) (probes others : Probes) :
    classify world lexicon probes path = classify other lexicon others path := by
  obtain ⟨record, settled⟩ := Record.ofStatus?_of_shut shut lexicon
  have twinSettled := same.ofStatus? lexicon path ▸ settled
  rw [classify_settled entry settled, classify_settled otherEntry twinSettled, sameStatus]

end

/-- Two worlds may differ wherever a classification does not look. Of a regular file, all that counts
is its mode and first line, unless probes are asked for; of any other entry, and of an editor's
backup, its status alone, whatever is asked for. -/
theorem classify_sees_only {world other : World} {path : String} {node twin : Node}
    (entry : world.disk.lookup false path = .ok node)
    (otherEntry : other.disk.lookup false path = .ok twin) (same : node.SameStatus twin)
    (sameStatus : world.faults .status path = other.faults .status path) :
    (∀ content more mode, node = .file content mode → twin = .file more mode →
      upToLineFeed content = upToLineFeed more →
      world.faults .head (Stage.head.request path) =
        other.faults .head (Stage.head.request path) →
      classify world .standard {} path = classify other .standard {} path ∧
        (world.Calm path → ∃ record, classify world .standard {} path = .ok record)) ∧
    (node.Shut path → ∀ lexicon probes others,
      classify world lexicon probes path = classify other lexicon others path ∧
        (world.faults .status path = none →
          ∃ record, classify world lexicon probes path = .ok record)) := by
  have shutCase (shut : node.Shut path) (lexicon : Lexicon) (probes others : Probes) :
      classify world lexicon probes path = classify other lexicon others path ∧
        (world.faults .status path = none →
          ∃ record, classify world lexicon probes path = .ok record) := by
    refine ⟨classify_congr_status entry otherEntry same shut sameStatus lexicon probes others,
      fun noFault => ?_⟩
    obtain ⟨record, settled⟩ := Record.ofStatus?_of_shut shut lexicon
    rw [classify_settled entry settled, noFault]
    exact ⟨record, rfl⟩
  refine ⟨?_, shutCase⟩
  rintro content more mode rfl rfl sameLine sameHead
  cases noBackup : isBackupName (fileNameOf path) with
  | true =>
    obtain ⟨sameRecord, settles⟩ := shutCase noBackup .standard {} {}
    exact ⟨sameRecord, fun calm => settles (calm .status (by decide))⟩
  | false =>
    exact ⟨classify_congr_line entry otherEntry noBackup sameLine sameStatus sameHead,
      fun calm => ⟨_, classify_calm entry noBackup calm⟩⟩

/-- A script, with more or less after its first line, and an editor's backup of it. -/
def draftDisk (more : Bytes) : Disk where
  entries := [
    ("deploy.sh", .file ([0x23, 0x21, 0x2F, 0x62, 0x69, 0x6E, 0x2F, 0x73, 0x68, 0x0A] ++ more) 0o755),
    ("deploy.sh~", .file more 0o755)]
  ordered := by
    refine ⟨?_, trivial, ?_, trivial, trivial⟩
    · simp only [List.mem_singleton, forall_eq]
      decide
    · simp

theorem classify_sees_only_draft :
    let world (more : Bytes) := World.ofDisk (draftDisk more)
    ∃ script backup,
      classify (world []) .standard {} "deploy.sh" = .ok script ∧
      classify (world [0xEF]) .standard {} "deploy.sh" = .ok script ∧
      classify (world []) .standard {} "deploy.sh~" = .ok backup ∧
      classify (world [0xEF]) .standard { finalEol := true } "deploy.sh~" = .ok backup := by
  intro world
  have script (more : Bytes) : (world more).disk.lookup false "deploy.sh" = .ok (.file
      ([0x23, 0x21, 0x2F, 0x62, 0x69, 0x6E, 0x2F, 0x73, 0x68, 0x0A] ++ more) 0o755) := by
    refine Disk.lookup_name rfl ?_ ?_ ?_ ?_ ?_ ?_ <;> decide
  have backup (more : Bytes) :
      (world more).disk.lookup false "deploy.sh~" = .ok (.file more 0o755) := by
    refine Disk.lookup_name rfl ?_ ?_ ?_ ?_ ?_ ?_ <;> decide
  have shut : (Node.file [] 0o755).Shut "deploy.sh~" := show isBackupName _ = true by decide
  have calm (more : Bytes) (path : String) : (world more).Calm path := fun _ _ => rfl
  have seen := (classify_sees_only (script []) (script [0xEF]) (.file _ _ _) rfl).1 _ _ _ rfl rfl
    (by decide) rfl
  have unopened := (classify_sees_only (backup []) (backup [0xEF]) (.file _ _ _) rfl).2 shut
    .standard {} { finalEol := true }
  obtain ⟨scriptRecord, scriptOk⟩ := seen.2 (calm _ _)
  obtain ⟨backupRecord, backupOk⟩ := unopened.2 rfl
  exact ⟨scriptRecord, backupRecord, scriptOk, seen.1 ▸ scriptOk, backupOk, unopened.1 ▸ backupOk⟩

end ShellSurvey
