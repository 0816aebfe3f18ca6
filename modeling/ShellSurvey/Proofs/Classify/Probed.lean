import ShellSurvey.Lexicon.Standard
import ShellSurvey.Proofs.Classify.Course

namespace ShellSurvey

/-- A record with other answers from the probes on request. -/
def Record.probed (record : Record) (finalEol : FinalEol) (containsCr : Bool) : Record :=
  { record with finalEol := finalEol, containsCr := containsCr }

theorem Record.probed_eq {record : Record} (unended : record.finalEol = .notComputed)
    (unscanned : record.containsCr = false) : record.probed .notComputed false = record := by
  rw [probed, ← unended, ← unscanned]

theorem Record.probed_ofEntry (lexicon : Lexicon) (path : String) (mode : Nat) :
    (Record.ofEntry lexicon path mode).probed .notComputed false =
      Record.ofEntry lexicon path mode := by
  rw [ofEntry, implyInterpreter_eq]
  exact probed_eq rfl rfl

theorem Record.probed_ofStatus? {lexicon : Lexicon} {path : String} {node : Node}
    {record : Record} (settled : Record.ofStatus? lexicon path node = some record) :
    record.probed .notComputed false = record := by
  rcases Record.ofStatus?_cases settled with rfl | rfl | rfl | rfl <;>
    exact probed_eq rfl rfl

/-- What was learnt on request has no part in settling the class. -/
theorem Record.conclude_probed (lexicon : Lexicon) (content : Bytes) (record : Record)
    (finalEol : FinalEol) (containsCr : Bool) :
    (record.probed finalEol containsCr).conclude lexicon content =
      (record.conclude lexicon content).probed finalEol containsCr := by
  unfold conclude heed
  dsimp only [probed, assignFamily]
  split
  · rfl
  · split <;> rfl

/-- The answer about the end of a file. An empty one has none. -/
def FinalEol.answer (content : Bytes) : FinalEol :=
  if content.length = 0 then .notComputed else .ofContent content content.length

/-- The answer about carriage returns, which are looked for in scripts alone. -/
def Record.answerCr (settled : Record) (content : Bytes) : Bool :=
  (settled.posix || settled.altShellScript) && holdsCr content

/-- A record with those answers that were asked for. -/
def Probes.report (probes : Probes) (plain : Record) (finalEol : FinalEol) (containsCr : Bool) :
    Record :=
  plain.probed (if probes.finalEol then finalEol else .notComputed)
    (probes.carriageReturns && containsCr)

theorem Probes.report_nothing (probes : Probes) (plain : Record) :
    probes.report plain .notComputed false = plain.probed .notComputed false := by
  rw [report, ite_self, Bool.and_false]

theorem Record.seeTail_plain {record : Record} (plain : record.probed .notComputed false = record)
    (probes : Probes) (content : Bytes) :
    record.seeTail probes content =
      record.probed (if probes.finalEol then .answer content else .notComputed) false := by
  unfold seeTail Probes.wantTail FinalEol.answer
  cases probes.finalEol with
  | false => exact plain.symm
  | true =>
    by_cases empty : content.length = 0
    · simp only [empty, bne_self_eq_false, Bool.and_false, Bool.false_eq_true, if_false, if_true]
      exact plain.symm
    · simp only [Bool.true_and, bne_iff_ne, ne_eq, empty, not_false_eq_true, if_true, if_false]
      rw [← plain]
      rfl

theorem Record.seeAll_probed (settled : Record) (probes : Probes) (finalEol : FinalEol)
    (content : Bytes) :
    (settled.probed finalEol false).seeAll probes content =
      settled.probed finalEol (probes.carriageReturns && settled.answerCr content) := by
  have asked : probes.wantScan (settled.probed finalEol false) =
      (probes.carriageReturns && (settled.posix || settled.altShellScript)) := rfl
  unfold seeAll answerCr
  rw [asked, ← Bool.and_assoc]
  cases probes.carriageReturns && (settled.posix || settled.altShellScript) <;> rfl

/-- A file that is gone through without a failure is reported on with every answer asked for. -/
theorem Record.seeAll_settle (lexicon : Lexicon) {opened : Record}
    (plain : opened.probed .notComputed false = opened) (probes : Probes) (content : Bytes) :
    let settled := (opened.seeHead lexicon content).conclude lexicon content
    (opened.settle lexicon probes content).seeAll probes content =
      probes.report settled (.answer content) (settled.answerCr content) := by
  intro settled
  have headPlain : (opened.seeHead lexicon content).probed .notComputed false =
      opened.seeHead lexicon content := congrArg (Record.seeHead lexicon content) plain
  rw [settle, seeTail_plain headPlain, conclude_probed, seeAll_probed]
  rfl

/-- What there is to learn on request about an entry does not depend on what is asked for. -/
theorem classify_report {world : World} {path : String} {node : Node}
    (entry : world.disk.lookup false path = .ok node) (calm : world.Calm path) (lexicon : Lexicon) :
    ∃ plain finalEol containsCr, ∀ probes,
      classify world lexicon probes path = .ok (Probes.report probes plain finalEol containsCr) := by
  cases settled : Record.ofStatus? lexicon path node with
  | some record =>
    have status : world.faults .status path = none := calm .status (by decide)
    refine ⟨record, .notComputed, false, fun probes => ?_⟩
    rw [classify_settled entry settled, status, Probes.report_nothing,
      Record.probed_ofStatus? settled]
    rfl
  | none =>
    obtain ⟨noBackup, content, mode, rfl⟩ := Record.ofStatus?_eq_none settled
    let settled :=
      ((Record.ofEntry lexicon path mode).seeHead lexicon content).conclude lexicon content
    refine ⟨settled, .answer content, settled.answerCr content, fun probes => ?_⟩
    rw [classify_calm entry noBackup calm]
    exact congrArg Except.ok
      (Record.seeAll_settle lexicon (Record.probed_ofEntry lexicon path mode) probes content)

/-- Two classifications of an entry that ask for other things differ in nothing but the answers to
what was asked: each answer is missing unless it was asked for, and does not depend on whether the
other one was. -/
theorem classify_probes_apart {world : World} {path : String} {node : Node}
    (entry : world.disk.lookup false path = .ok node) (calm : world.Calm path) (lexicon : Lexicon)
    (probes others : Probes) :
    ∃ record other,
      classify world lexicon probes path = .ok record ∧
      classify world lexicon others path = .ok other ∧
      other = { record with finalEol := other.finalEol, containsCr := other.containsCr } ∧
      (probes.finalEol = false → record.finalEol = .notComputed) ∧
      (probes.carriageReturns = false → record.containsCr = false) ∧
      (probes.finalEol = others.finalEol → record.finalEol = other.finalEol) ∧
      (probes.carriageReturns = others.carriageReturns → record.containsCr = other.containsCr) := by
  obtain ⟨plain, finalEol, containsCr, reported⟩ := classify_report entry calm lexicon
  refine ⟨_, _, reported probes, reported others, rfl, ?_, ?_, ?_, ?_⟩
  · intro unasked
    simp only [Probes.report, Record.probed, unasked, Bool.false_eq_true, if_false]
  · intro unasked
    simp only [Probes.report, Record.probed, unasked, Bool.false_and]
  · intro alike
    simp only [Probes.report, Record.probed, alike]
  · intro alike
    simp only [Probes.report, Record.probed, alike]

theorem classify_probes_apart_script :
    let world := World.ofDisk scriptDisk
    ∃ record other,
      classify world .standard {} "deploy.sh" = .ok record ∧
      classify world .standard { carriageReturns := true } "deploy.sh" = .ok other ∧
      other = { record with containsCr := other.containsCr } ∧
      record.finalEol = .notComputed ∧ record.containsCr = false := by
  intro world
  have entry : world.disk.lookup false "deploy.sh" = .ok (.file _ 0o755) := scriptDisk_lookup
  obtain ⟨record, other, plain, scanned, apart, unended, unscanned, sameEnd, _⟩ :=
    classify_probes_apart entry scriptDisk_calm .standard {} { carriageReturns := true }
  rw [← sameEnd rfl] at apart
  exact ⟨record, other, plain, scanned, apart, unended rfl, unscanned rfl⟩

end ShellSurvey
