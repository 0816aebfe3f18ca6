import ShellSurvey.Proofs.Classify.Paired
import ShellSurvey.Proofs.Classify.Sight
import ShellSurvey.Proofs.Text.CarriageReturns

namespace ShellSurvey

/-- The content with a carriage return in front of each line feed. -/
def withReturns (content : Bytes) : Bytes := precede carriageReturn lineFeed content

theorem withReturns_of_not_mem {content : Bytes} (unbroken : lineFeed ∉ content) :
    withReturns content = content := precede_of_not_mem unbroken

theorem withReturns_append {line : Bytes} (unbroken : lineFeed ∉ line) (rest : Bytes) :
    withReturns (line ++ lineFeed :: rest) =
      (line ++ [carriageReturn]) ++ lineFeed :: withReturns rest := by
  rw [withReturns, precede_append, precede_of_not_mem unbroken, precede_cons_stop, withReturns]
  simp

/-- What was read up to a line feed holds no other. -/
theorem upToLineFeed_shape (content : Bytes) :
    ∃ line, lineFeed ∉ line ∧ (upToLineFeed content = line ++ [lineFeed] ∨
      upToLineFeed content = line) := by
  by_cases broken : lineFeed ∈ content
  · obtain ⟨line, rest, rfl, unbroken⟩ := List.eq_append_cons_of_mem broken
    exact ⟨line, unbroken, Or.inl (upToLineFeed_append unbroken rest)⟩
  · exact ⟨content, broken, Or.inr (upToLineFeed_of_not_mem broken)⟩

theorem upToLineFeed_withReturns (content : Bytes) :
    upToLineFeed (withReturns content) = withReturns (upToLineFeed content) := by
  by_cases broken : lineFeed ∈ content
  · obtain ⟨line, rest, rfl, unbroken⟩ := List.eq_append_cons_of_mem broken
    have returned : lineFeed ∉ line ++ [carriageReturn] := by
      simpa [unbroken] using show lineFeed ≠ carriageReturn by decide
    rw [withReturns_append unbroken, upToLineFeed_append returned, upToLineFeed_append unbroken,
      withReturns_append unbroken]
    rfl
  · rw [withReturns_of_not_mem broken, upToLineFeed_of_not_mem broken, withReturns_of_not_mem broken]

/-- What ends a line is no part of its text. -/
theorem lineText_append {ending : Bytes}
    (ends : ∀ byte ∈ ending, byte = lineFeed ∨ byte = carriageReturn) (line : Bytes) :
    lineText (line ++ ending) = lineText line := by
  have dropped : dropWhileEnd (fun b => b = lineFeed || b = carriageReturn) (line ++ ending) =
      dropWhileEnd (fun b => b = lineFeed || b = carriageReturn) line := by
    rw [dropWhileEnd, List.reverse_append, List.dropWhile_append_of_pos]
    · rfl
    · intro byte member
      simpa using ends byte (List.mem_reverse.mp member)
  rw [lineText, dropped, lineText]

theorem Announcement.ofLine_flipped {line : Bytes} (flipped : [0x21, 0x23] <+: line) :
    ofLine line = .flipped (lineText line) := by
  obtain ⟨rest, rfl⟩ := flipped
  rfl

theorem Announcement.ofLine_missing {line : Bytes} (noShebang : ¬ [0x23, 0x21] <+: line)
    (notFlipped : ¬ [0x21, 0x23] <+: line) : ofLine line = .missing := by
  rcases ofLine_cases line with ⟨rest, rfl, _⟩ | ⟨rest, rfl, _⟩ | ⟨missing, _⟩
  · exact absurd ⟨rest, rfl⟩ noShebang
  · exact absurd ⟨rest, rfl⟩ notFlipped
  · exact missing

/-- A first line announces the same with and without a carriage return at its end. -/
theorem Announcement.ofLine_withReturns (content : Bytes) :
    ofLine (withReturns (upToLineFeed content)) = ofLine (upToLineFeed content) := by
  have text : lineText (withReturns (upToLineFeed content)) = lineText (upToLineFeed content) := by
    obtain ⟨line, unbroken, ended | endless⟩ := upToLineFeed_shape content
    · have nothing : withReturns [] = [] := rfl
      rw [ended, withReturns_append unbroken, nothing, lineText_append (by simp),
        lineText_append (by simp), lineText_append (by simp)]
    · rw [endless, withReturns_of_not_mem unbroken]
  have starts {signs : Bytes} (noFeed : lineFeed ∉ signs) (noReturn : carriageReturn ∉ signs) :
      signs <+: withReturns (upToLineFeed content) ↔ signs <+: upToLineFeed content :=
    prefix_precede_iff noFeed noReturn
  by_cases shebang : [0x23, 0x21] <+: upToLineFeed content
  · rw [ofLine_shebang shebang, ofLine_shebang ((starts (by decide) (by decide)).mpr shebang), text]
  by_cases flipped : [0x21, 0x23] <+: upToLineFeed content
  · rw [ofLine_flipped flipped, ofLine_flipped ((starts (by decide) (by decide)).mpr flipped), text]
  · have noShebang := mt (starts (by decide) (by decide)).mp shebang
    have notFlipped := mt (starts (by decide) (by decide)).mp flipped
    rw [ofLine_missing shebang flipped, ofLine_missing noShebang notFlipped]

/-- No byte order mark has the end of a line in it. -/
def Lexicon.MarksEndless (lexicon : Lexicon) : Prop :=
  ∀ mark ∈ lexicon.byteOrderMarks, lineFeed ∉ mark ∧ carriageReturn ∉ mark

theorem Lexicon.marksEndless_standard : Lexicon.standard.MarksEndless := by
  unfold MarksEndless
  decide

theorem Lexicon.MarksEndless.markLength_withReturns {lexicon : Lexicon}
    (endless : lexicon.MarksEndless) (content : Bytes) :
    lexicon.markLength (withReturns content) = lexicon.markLength content := by
  by_cases broken : lineFeed ∈ content
  · obtain ⟨line, rest, rfl, unbroken⟩ := List.eq_append_cons_of_mem broken
    rw [withReturns_append unbroken, List.append_assoc, List.singleton_append,
      Lexicon.markLength_append fun mark known => (endless mark known).2,
      Lexicon.markLength_append fun mark known => (endless mark known).1]
  · rw [withReturns_of_not_mem broken]

/-- No carriage return comes into a byte order mark. -/
theorem drop_markLength_withReturns (lexicon : Lexicon) (endless : lexicon.MarksEndless)
    (content : Bytes) :
    (withReturns content).drop (lexicon.markLength content) =
      withReturns (content.drop (lexicon.markLength content)) := by
  by_cases broken : lineFeed ∈ content
  · obtain ⟨line, rest, rfl, unbroken⟩ := List.eq_append_cons_of_mem broken
    have within := lexicon.markLength_le line
    have later : lineFeed ∉ line.drop (lexicon.markLength line) :=
      fun member => unbroken (List.mem_of_mem_drop member)
    rw [Lexicon.markLength_append fun mark known => (endless mark known).1,
      withReturns_append unbroken, List.append_assoc, List.drop_append_of_le_length within,
      List.drop_append_of_le_length within, withReturns_append later, List.append_assoc]
  · rw [withReturns_of_not_mem broken, withReturns_of_not_mem]
    exact fun member => broken (List.mem_of_mem_drop member)

/-- The first line is the same but for the carriage return at its end. -/
theorem Lexicon.MarksEndless.ofContent_withReturns {lexicon : Lexicon}
    (endless : lexicon.MarksEndless) (content : Bytes) :
    (FirstLine.ofContent lexicon (withReturns content)).marked =
        (FirstLine.ofContent lexicon content).marked ∧
      Announcement.ofLine (FirstLine.ofContent lexicon (withReturns content)).line =
        Announcement.ofLine (FirstLine.ofContent lexicon content).line := by
  unfold FirstLine.ofContent
  simp only [lexicon.markLength_take, endless.markLength_withReturns,
    drop_markLength_withReturns lexicon endless, upToLineFeed_withReturns,
    Announcement.ofLine_withReturns, and_self]

/-- A record without what it says about the ends of lines. -/
def Record.endless (record : Record) : Record :=
  { record with lineEnding := .none, finalEol := .notComputed, containsCr := false }

/-- Two records that agree on all but the ends of lines. -/
def Record.SameButEnds (record twin : Record) : Prop := record.endless = twin.endless

theorem Record.SameButEnds.refl (record : Record) : record.SameButEnds record := rfl

theorem Record.endless_seeTail (record : Record) (probes : Probes) (content : Bytes) :
    (record.seeTail probes content).endless = record.endless := by
  unfold seeTail
  split <;> rfl

theorem Record.endless_seeAll (record : Record) (probes : Probes) (content : Bytes) :
    (record.seeAll probes content).endless = record.endless := by
  unfold seeAll
  split <;> rfl

/-- The ends of lines have no part in settling the class. -/
theorem Record.endless_conclude (record : Record) (lexicon : Lexicon) (content : Bytes) :
    (record.conclude lexicon content).endless = record.endless.conclude lexicon content := by
  unfold conclude heed
  dsimp only [endless, assignFamily]
  split
  · rfl
  · split <;> rfl

theorem Record.endless_settle (opened : Record) (lexicon : Lexicon) (probes : Probes)
    (content : Bytes) :
    (opened.settle lexicon probes content).endless =
      (opened.seeHead lexicon content).endless.conclude lexicon content := by
  rw [settle, endless_conclude, endless_seeTail]

theorem Probes.wantScan_endless (probes : Probes) (record : Record) :
    probes.wantScan record.endless = probes.wantScan record := rfl

theorem Probes.wantTail_withReturns (probes : Probes) (content : Bytes) :
    probes.wantTail (withReturns content) = probes.wantTail content := by
  have empty : (withReturns content).length = 0 ↔ content.length = 0 := by
    rw [List.length_eq_zero_iff, List.length_eq_zero_iff]
    exact precede_eq_nil_iff
  have some : ((withReturns content).length != 0) = (content.length != 0) := by
    rw [Bool.eq_iff_iff, bne_iff_ne, bne_iff_ne, Ne, Ne, empty]
  rw [wantTail, wantTail, some]

section

variable {lexicon : Lexicon} (endless : lexicon.MarksEndless)
include endless

theorem Lexicon.MarksEndless.seeHead (content : Bytes) (record : Record) :
    (record.seeHead lexicon content).SameButEnds (record.seeHead lexicon (withReturns content)) := by
  have marked := (endless.ofContent_withReturns content).1
  simp only [Record.SameButEnds, Record.endless, Record.seeHead, marked]

theorem Lexicon.MarksEndless.conclude (content : Bytes) (record : Record) :
    record.conclude lexicon (withReturns content) = record.conclude lexicon content := by
  rw [Record.conclude, (endless.ofContent_withReturns content).2, Record.conclude]

theorem Lexicon.MarksEndless.settle (probes : Probes) (content : Bytes) (opened : Record) :
    (opened.settle lexicon probes content).SameButEnds
      (opened.settle lexicon probes (withReturns content)) := by
  have head : (opened.seeHead lexicon content).endless = _ := endless.seeHead content opened
  rw [Record.SameButEnds, Record.endless_settle, Record.endless_settle, endless.conclude, head]

/-- At each stage as much is known of the one file as of the other, the ends of lines aside. -/
theorem Lexicon.MarksEndless.abreast (probes : Probes) (content : Bytes) (opened : Record) :
    Record.Abreast Record.SameButEnds lexicon probes content (withReturns content) opened
      opened := by
  have settled := endless.settle probes content opened
  refine {
    start := .refl opened
    headSeen := endless.seeHead content opened
    settled := settled
    complete := ?_
    wantTail := (probes.wantTail_withReturns content).symm
    wantScan := ?_ }
  · rw [Record.SameButEnds, Record.endless_seeAll, Record.endless_seeAll]
    exact settled
  · rw [← probes.wantScan_endless, ← probes.wantScan_endless (Record.settle ..)]
    exact congrArg probes.wantScan settled

end

/-- Two worlds, of which one has carriage returns in front of the line feeds of the file at a path. -/
structure World.Returned (world other : World) (path : String) (content : Bytes) (mode : Nat) :
    Prop where
  file : world.disk.lookup false path = .ok (.file content mode)
  returned : other.disk.lookup false path = .ok (.file (withReturns content) mode)
  faults : ∀ stage asked, other.faults stage asked = world.faults stage asked

/-- The records of both files are the same but for the ends of lines, in whatever way a classification
ends. -/
theorem World.Returned.classify {world other : World} {path : String} {content : Bytes} {mode : Nat}
    (pair : world.Returned other path content mode) (probes : Probes) :
    EndsAlike Eq Record.SameButEnds (classify world .standard probes path)
      (classify other .standard probes path) := by
  have struck : ∀ stage ∈ Stage.probing, Option.Rel Eq
      (world.faults stage (stage.request path)) (other.faults stage (stage.request path)) := by
    intro stage _
    rw [pair.faults]
    cases world.faults stage (stage.request path) with
    | none => exact .none
    | some error => exact .some rfl
  have abreast := Lexicon.marksEndless_standard.abreast probes content
    (Record.ofEntry .standard path mode)
  exact classify_alike pair.file pair.returned struck rfl (Record.SameButEnds.refl _)
    (Record.SameButEnds.refl _) abreast

end ShellSurvey
