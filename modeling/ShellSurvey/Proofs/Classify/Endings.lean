import ShellSurvey.Proofs.Classify.LineEnds
import ShellSurvey.Proofs.Survey.Yield

namespace ShellSurvey

/-- A text, its first line and how that ends. Only without any line feed does a carriage return at the
end count. -/
inductive FirstLineOf : Bytes → Bytes → LineEnding → Prop
  | lf {line : Bytes} (rest : Bytes) (unbroken : lineFeed ∉ line)
      (noReturn : ¬ [carriageReturn] <:+ line) :
      FirstLineOf (line ++ lineFeed :: rest) (line ++ [lineFeed]) .lf
  | crlf {line : Bytes} (rest : Bytes) (unbroken : lineFeed ∉ line) :
      FirstLineOf (line ++ carriageReturn :: lineFeed :: rest)
        (line ++ [carriageReturn, lineFeed]) .crlf
  | cr {line : Bytes} (unbroken : lineFeed ∉ line) :
      FirstLineOf (line ++ [carriageReturn]) (line ++ [carriageReturn]) .cr
  | none {line : Bytes} (unbroken : lineFeed ∉ line) (noReturn : ¬ [carriageReturn] <:+ line) :
      FirstLineOf line line .none

theorem LineEnding.ofLine_crlf (line : Bytes) :
    ofLine (line ++ [carriageReturn, lineFeed]) = .crlf := by
  simp [ofLine, carriageReturn, lineFeed]

theorem LineEnding.ofLine_cr (line : Bytes) : ofLine (line ++ [carriageReturn]) = .cr := by
  simp [ofLine, carriageReturn]

theorem LineEnding.ofLine_lf {line : Bytes} (noReturn : ¬ [carriageReturn] <:+ line) :
    ofLine (line ++ [lineFeed]) = .lf := by
  rcases List.eq_nil_or_concat line with rfl | ⟨front, last, rfl⟩
  · rfl
  · have other : last ≠ 13 := by
      rintro rfl
      exact noReturn ⟨front, (List.concat_eq_append ..).symm⟩
    simp [ofLine, lineFeed, other]

theorem LineEnding.ofLine_none {line : Bytes} (noFeed : ¬ [lineFeed] <:+ line)
    (noReturn : ¬ [carriageReturn] <:+ line) : ofLine line = .none := by
  rcases List.eq_nil_or_concat line with rfl | ⟨front, last, rfl⟩
  · rfl
  · have noFeed : last ≠ 10 := by
      rintro rfl
      exact noFeed ⟨front, (List.concat_eq_append ..).symm⟩
    have noReturn : last ≠ 13 := by
      rintro rfl
      exact noReturn ⟨front, (List.concat_eq_append ..).symm⟩
    simp [ofLine, noFeed, noReturn]

/-- What is read up to the first line feed is the first line. -/
theorem firstLineOf_upToLineFeed (text : Bytes) :
    FirstLineOf text (upToLineFeed text) (.ofLine (upToLineFeed text)) := by
  by_cases broken : lineFeed ∈ text
  · obtain ⟨line, rest, rfl, unbroken⟩ := List.eq_append_cons_of_mem broken
    rw [upToLineFeed_append unbroken]
    by_cases returned : [carriageReturn] <:+ line
    · obtain ⟨front, rfl⟩ := returned
      rw [List.append_assoc, List.append_assoc, List.singleton_append, List.singleton_append,
        LineEnding.ofLine_crlf]
      exact .crlf rest fun member => unbroken (List.mem_append_left _ member)
    · rw [LineEnding.ofLine_lf returned]
      exact .lf rest unbroken returned
  · rw [upToLineFeed_of_not_mem broken]
    by_cases returned : [carriageReturn] <:+ text
    · obtain ⟨front, rfl⟩ := returned
      rw [LineEnding.ofLine_cr]
      exact .cr fun member => broken (List.mem_append_left _ member)
    · have unfed : ¬ [lineFeed] <:+ text :=
        fun ended => broken (ended.subset (List.mem_singleton.mpr rfl))
      rw [LineEnding.ofLine_none unfed returned]
      exact .none broken returned

section

variable {text line : Bytes} {ending : LineEnding} (first : FirstLineOf text line ending)
include first

theorem FirstLineOf.return_mem (returned : ending = .cr ∨ ending = .crlf) :
    carriageReturn ∈ text := by
  cases first with
  | lf rest unbroken noReturn | none unbroken noReturn => simp at returned
  | crlf rest unbroken | cr unbroken => simp

theorem FirstLineOf.lineFeed_mem_iff : lineFeed ∈ text ↔ ending = .lf ∨ ending = .crlf := by
  cases first with
  | lf rest unbroken noReturn | crlf rest unbroken => simp
  | cr unbroken => simpa [carriageReturn, lineFeed] using unbroken
  | none unbroken noReturn => simpa using unbroken

end

/-- What is read at the end of a file are its last two bytes, or all of them. -/
theorem reverse_tailOf (content : Bytes) :
    (tailOf content content.length).reverse = content.reverse.take 2 := by
  by_cases long : 2 ≤ content.length
  · have whole : (content.drop (content.length - 2)).length ≤ 2 := by
      rw [List.length_drop]
      omega
    rw [tailOf, if_pos long, List.take_of_length_le whole, List.reverse_drop]
    congr 1
    omega
  · have short : content.length ≤ 1 := by omega
    have reversed : content.reverse.length ≤ 2 := by
      rw [List.length_reverse]
      omega
    have start : content.length - 1 = 0 := by omega
    rw [tailOf, if_neg long, start, List.drop_zero, List.take_of_length_le short,
      List.take_of_length_le reversed]

/-- The end of a file counts if it is a line feed without a carriage return before it. -/
theorem FinalEol.ofContent_present_iff (content : Bytes) :
    ofContent content content.length = .present ↔
      [lineFeed] <:+ content ∧ ¬ [carriageReturn, lineFeed] <:+ content := by
  have feed (byte : UInt8) : lineFeed = byte ↔ byte = 10 := eq_comm
  have returns (byte : UInt8) : carriageReturn = byte ↔ byte = 13 := eq_comm
  rw [ofContent, ofTail, reverse_tailOf, ← List.reverse_prefix, ← List.reverse_prefix]
  rcases content.reverse with _ | ⟨last, _ | ⟨before, rest⟩⟩
  · simp
  · by_cases fed : last = 10 <;> simp [fed, feed]
  · by_cases fed : last = 10 <;> by_cases returned : before = 13 <;>
      simp [fed, returned, feed, returns]

theorem FinalEol.ofContent_ne_notComputed (content : Bytes) (size : Nat) :
    ofContent content size ≠ .notComputed := by
  unfold ofContent ofTail
  split
  · nofun
  · split <;> nofun
  · nofun

/-- A byte order mark that a content starts with, or nothing if there is none. Of several marks the
shortest is taken. -/
def Lexicon.StartsWithMark (lexicon : Lexicon) (content mark : Bytes) : Prop :=
  let Starts (known : Bytes) : Prop :=
    known ∈ lexicon.byteOrderMarks ∧ known.length ∈ markLengths ∧ known <+: content
  mark = [] ∧ (∀ known, ¬ Starts known) ∨
    Starts mark ∧ ∀ known, Starts known → mark.length ≤ known.length

theorem Lexicon.startsWithMark_take (lexicon : Lexicon) (content : Bytes) :
    lexicon.StartsWithMark content (content.take (lexicon.markLength content)) := by
  have tried {known : Bytes} (member : known ∈ lexicon.byteOrderMarks) (fits : known <+: content) :
      (decide (known.length ≤ content.length) &&
        lexicon.byteOrderMarks.contains (content.take known.length)) = true := by
    have start : content.take known.length = known := (List.prefix_iff_eq_take.mp fits).symm
    simp [start, member, fits.length_le]
  unfold markLength StartsWithMark
  cases found : markLengths.find? _ with
  | none =>
    refine Or.inl ⟨rfl, fun known ⟨member, length, fits⟩ => ?_⟩
    exact List.find?_eq_none.mp found _ length (tried member fits)
  | some length =>
    obtain ⟨marked, before, after, sorted, earlier⟩ := List.find?_eq_some_iff_append.mp found
    simp only [Bool.and_eq_true, decide_eq_true_eq, List.contains_eq_mem] at marked
    have taken : (content.take length).length = length := List.length_take_of_le marked.1
    have rising : (before ++ length :: after).Pairwise (· < ·) := sorted ▸ by decide
    refine Or.inr ⟨⟨marked.2, taken.symm ▸ List.mem_of_find?_eq_some found, List.take_prefix ..⟩, ?_⟩
    rintro known ⟨member, known_length, fits⟩
    rw [Option.getD_some, taken]
    rw [sorted, List.mem_append, List.mem_cons] at known_length
    rcases known_length with sooner | same | later
    · have untried := earlier _ sooner
      rw [tried member fits] at untried
      cases untried
    · exact same.ge
    · exact ((List.pairwise_cons.mp (List.pairwise_append.mp rising).2.1).1 _ later).le

theorem flatten_inChunks {size : Nat} (positive : 0 < size) (bytes : Bytes) :
    (inChunks size bytes).flatten = bytes := by
  fun_induction inChunks size bytes with
  | case1 bytes done =>
    have none : size = 0 ∨ bytes = [] := List.take_eq_nil_iff.mp done
    rcases none with zero | empty
    · omega
    · rw [empty, List.flatten_nil]
  | case2 bytes more ih => rw [List.flatten_cons, ih, List.take_append_drop]

theorem anyHoldsCr_iff (chunks : List Bytes) :
    anyHoldsCr chunks = true ↔ carriageReturn ∈ chunks.flatten := by
  simp [anyHoldsCr]

theorem holdsCr_iff (content : Bytes) : holdsCr content = true ↔ carriageReturn ∈ content := by
  have positive : 0 < chunkSize := by decide
  rw [holdsCr, anyHoldsCr_iff, flatten_inChunks positive]

/-- What a record says about the ends of lines comes from the same bytes. -/
structure Record.EndsAgree (record : Record) : Prop where
  returned : record.lineEnding = .cr ∨ record.lineEnding = .crlf → record.containsCr = true
  endless : record.lineEnding = .cr ∨ record.lineEnding = .none → record.finalEol ≠ .present
  fed : record.finalEol = .present → record.containsCr = false → record.lineEnding = .lf

theorem Record.endsAgree_ofStatus? {lexicon : Lexicon} {path : String} {node : Node}
    {record : Record} (settled : Record.ofStatus? lexicon path node = some record) :
    record.EndsAgree := by
  rcases Record.ofStatus?_cases settled with rfl | rfl | rfl | rfl <;>
    exact ⟨by simp [judgeName, ofName], by simp [judgeName, ofName], by simp [judgeName, ofName]⟩

/-- No byte order mark takes the end of a line away from the first line. -/
theorem Lexicon.MarksEndless.lineFeed_mem_iff {lexicon : Lexicon} (endless : lexicon.MarksEndless)
    (content : Bytes) :
    lineFeed ∈ content.drop (lexicon.markLength content) ↔ lineFeed ∈ content := by
  refine ⟨List.mem_of_mem_drop, fun member => ?_⟩
  rw [← List.take_append_drop (lexicon.markLength content) content, List.mem_append] at member
  refine member.resolve_left fun marked => ?_
  rcases lexicon.startsWithMark_take content with ⟨nothing, _⟩ | ⟨⟨known, _⟩, _⟩
  · rw [nothing] at marked
    cases marked
  · exact (endless _ known).1 marked

theorem FirstLine.firstLineOf_ofContent (lexicon : Lexicon) (content : Bytes) :
    FirstLineOf (content.drop (lexicon.markLength content)) (ofContent lexicon content).line
      (ofContent lexicon content).ending := by
  unfold ofContent
  rw [lexicon.markLength_take]
  exact firstLineOf_upToLineFeed _

/-- A regular file's record holds what each probe saw. -/
theorem Record.ends_whole (lexicon : Lexicon) (content : Bytes) (opened : Record) :
    let whole := (opened.settle lexicon ⟨true, true⟩ content).seeAll ⟨true, true⟩ content
    whole.lineEnding = (FirstLine.ofContent lexicon content).ending ∧
    (whole.finalEol = .present →
      opened.finalEol = .present ∨ FinalEol.ofContent content content.length = .present) ∧
    (whole.posix = true ∨ whole.altShellScript = true → whole.containsCr = holdsCr content) := by
  obtain ⟨_, _, _, posix, _, _, altShellScript, concluded⟩ := Record.conclude_frame lexicon content
    ((opened.seeHead lexicon content).seeTail ⟨true, true⟩ content)
  dsimp only
  rw [settle, concluded]
  refine ⟨?_, ?_, ?_⟩
  · unfold seeAll seeTail
    split <;> split <;> rfl
  · have unscanned (record : Record) : (record.seeAll ⟨true, true⟩ content).finalEol =
        record.finalEol := by
      obtain ⟨_, framed⟩ := Record.seeAll_frame ⟨true, true⟩ content record
      rw [framed]
    rw [unscanned]
    unfold seeTail
    split
    · exact Or.inr
    · exact Or.inl
  · unfold seeAll
    split
    · exact fun _ => rfl
    · next unscanned =>
      intro script
      refine absurd ?_ unscanned
      rw [Probes.wantScan, Bool.true_and, Bool.or_eq_true]
      exact script

/-- The first line, the last bytes and a search through all of a content tell the same of it. -/
theorem Record.EndsAgree.of_content {lexicon : Lexicon} (endless : lexicon.MarksEndless)
    {content : Bytes} {record : Record}
    (seen : record.lineEnding = (FirstLine.ofContent lexicon content).ending)
    (ended : record.finalEol = .present → FinalEol.ofContent content content.length = .present)
    (scanned : record.containsCr = holdsCr content) : record.EndsAgree := by
  have first := FirstLine.firstLineOf_ofContent lexicon content
  rw [← seen] at first
  have returned (ends : record.lineEnding = .cr ∨ record.lineEnding = .crlf) :
      record.containsCr = true := by
    rw [scanned, holdsCr_iff]
    exact List.mem_of_mem_drop (first.return_mem ends)
  have fed (present : record.finalEol = .present) :
      record.lineEnding = .lf ∨ record.lineEnding = .crlf := by
    have last := ((FinalEol.ofContent_present_iff content).mp (ended present)).1
    exact first.lineFeed_mem_iff.mp ((endless.lineFeed_mem_iff content).mpr
      (last.subset (List.mem_singleton.mpr rfl)))
  refine ⟨returned, ?_, ?_⟩
  · intro ends present
    have other : record.lineEnding ≠ .lf ∧ record.lineEnding ≠ .crlf := by
      rcases ends with cr | none
      · rw [cr]
        decide
      · rw [none]
        decide
    exact (fed present).elim other.1 other.2
  · intro present noReturn
    refine (fed present).resolve_right fun crlf => ?_
    rw [returned (Or.inr crlf)] at noReturn
    cases noReturn

theorem Record.finalEol_ofEntry (lexicon : Lexicon) (path : String) (mode : Nat) :
    (Record.ofEntry lexicon path mode).finalEol = .notComputed := by
  rw [ofEntry, implyInterpreter_eq]
  rfl

/-- With all probes on, the record of a script never contradicts itself about the ends of lines. -/
theorem Record.endsAgree_of_classify {lexicon : Lexicon} (endless : lexicon.MarksEndless)
    {world : World} {path : String} {record : Record}
    (classified : classify world lexicon ⟨true, true⟩ path = .ok record)
    (script : record.posix = true ∨ record.altShellScript = true) : record.EndsAgree := by
  obtain ⟨node, _, settled | ⟨content, mode, _, rfl⟩⟩ := classify_outcome classified
  · exact Record.endsAgree_ofStatus? settled
  · obtain ⟨seen, ended, scanned⟩ :=
      Record.ends_whole lexicon content (Record.ofEntry lexicon path mode)
    refine .of_content endless seen (fun present => (ended present).resolve_left fun early => ?_)
      (scanned script)
    rw [Record.finalEol_ofEntry] at early
    cases early

/-- The three looks that a classification takes at a content. The first line is cut off after its line
feed and without the byte order mark, the last bytes tell whether a line feed ends the file, and however
the content is read in chunks a carriage return anywhere in it is found. So the record of a script is
consistent in what it says about the ends of lines. -/
theorem endings_seen (lexicon : Lexicon) (content : Bytes) :
    (∃ mark rest, content = mark ++ rest ∧ lexicon.StartsWithMark content mark ∧
      ((FirstLine.ofContent lexicon content).marked = true ↔ mark ≠ []) ∧
      FirstLineOf rest (FirstLine.ofContent lexicon content).line
        (FirstLine.ofContent lexicon content).ending) ∧
    (FinalEol.ofContent content content.length = .present ↔
      [lineFeed] <:+ content ∧ ¬ [carriageReturn, lineFeed] <:+ content) ∧
    FinalEol.ofContent content content.length ≠ .notComputed ∧
    (∀ chunks : List Bytes, chunks.flatten = content →
      (anyHoldsCr chunks = true ↔ carriageReturn ∈ content)) ∧
    (holdsCr content = true ↔ carriageReturn ∈ content) ∧
    ∀ world path record, classify world .standard ⟨true, true⟩ path = .ok record →
      record.posix = true ∨ record.altShellScript = true → record.EndsAgree := by
  have within := lexicon.markLength_le content
  have marked : (FirstLine.ofContent lexicon content).marked = true ↔
      content.take (lexicon.markLength content) ≠ [] := by
    rw [FirstLine.ofContent, lexicon.markLength_take, decide_eq_true_eq, Ne,
      ← List.length_eq_zero_iff, List.length_take_of_le within, Nat.pos_iff_ne_zero]
  have first : ∃ mark rest, content = mark ++ rest ∧ lexicon.StartsWithMark content mark ∧
      ((FirstLine.ofContent lexicon content).marked = true ↔ mark ≠ []) ∧
      FirstLineOf rest (FirstLine.ofContent lexicon content).line
        (FirstLine.ofContent lexicon content).ending :=
    ⟨_, _, (List.take_append_drop (lexicon.markLength content) content).symm,
      lexicon.startsWithMark_take content, marked, FirstLine.firstLineOf_ofContent lexicon content⟩
  have chunked (chunks : List Bytes) (whole : chunks.flatten = content) :
      anyHoldsCr chunks = true ↔ carriageReturn ∈ content := by
    rw [anyHoldsCr_iff, whole]
  exact ⟨first, FinalEol.ofContent_present_iff content,
    FinalEol.ofContent_ne_notComputed content content.length, chunked, holdsCr_iff content,
    fun _ _ _ classified script =>
      Record.endsAgree_of_classify Lexicon.marksEndless_standard classified script⟩

theorem endings_seen_script :
    let content : Bytes := [0x23, 0x21, 0x2F, 0x62, 0x69, 0x6E, 0x2F, 0x73, 0x68, 0x0D, 0x0A]
    [content.take 10, content.drop 10].flatten = content ∧
    anyHoldsCr [content.take 10, content.drop 10] = true ∧
    ∃ record, classify (.ofDisk scriptDisk) .standard ⟨true, true⟩ "deploy.sh" = .ok record ∧
      record.posix = true ∧ record.EndsAgree := by
  intro content
  obtain ⟨_, _, _, chunked, _, agree⟩ := endings_seen .standard content
  have whole : [content.take 10, content.drop 10].flatten = content := by decide
  have returned : anyHoldsCr [content.take 10, content.drop 10] = true :=
    (chunked _ whole).mpr (by decide)
  have classified : classify (.ofDisk scriptDisk) .standard ⟨true, true⟩ "deploy.sh" = .ok _ :=
    classify_calm scriptDisk_lookup (by decide) scriptDisk_calm
  have posix : (((Record.ofEntry .standard "deploy.sh" 0o755).settle .standard ⟨true, true⟩
      content).seeAll ⟨true, true⟩ content).posix = true := by
    decide +kernel
  exact ⟨whole, returned, _, classified, posix, agree _ _ _ classified (Or.inl posix)⟩

end ShellSurvey
