import Mathlib.Data.Option.Basic
import ShellSurvey.Proofs.Classify.Course

namespace ShellSurvey

/-- Two outcomes of one shape: complete, or broken off at the same stage, with records that agree. -/
inductive EndsAlike (blames : FileError → FileError → Prop) (agree : Record → Record → Prop) :
    Except Failure Record → Except Failure Record → Prop where
  | complete {record twin : Record} (same : agree record twin) :
      EndsAlike blames agree (.ok record) (.ok twin)
  | brokenOff {error cause : FileError} {record twin : Record} (stage : Stage)
      (blamed : blames error cause) (same : agree record twin) :
      EndsAlike blames agree (.error ⟨stage, .failed error, record⟩)
        (.error ⟨stage, .failed cause, twin⟩)

section

variable {blames : FileError → FileError → Prop} {agree : Record → Record → Prop}

theorem EndsAlike.failAt {fault other : Option FileError} (struck : Option.Rel blames fault other)
    {record twin : Record} (known : agree record twin) {next after : Except Failure Record}
    (later : EndsAlike blames agree next after) (stage : Stage) :
    EndsAlike blames agree (failAt fault stage record next) (failAt other stage twin after) := by
  cases struck with
  | some blamed => exact .brokenOff stage blamed known
  | none => exact later

/-- The complete outcome of one is matched by a complete outcome of the other. -/
theorem EndsAlike.of_ok {record : Record} {other : Except Failure Record}
    (alike : EndsAlike blames agree (.ok record) other) :
    ∃ twin, other = .ok twin ∧ agree record twin := by
  cases alike with
  | complete same => exact ⟨_, rfl, same⟩

/-- An open file of which more is known at each stage, and another one. -/
structure Record.Abreast (agree : Record → Record → Prop) (lexicon : Lexicon) (probes : Probes)
    (content more : Bytes) (opened twin : Record) : Prop where
  start : agree opened twin
  headSeen : agree (opened.seeHead lexicon content) (twin.seeHead lexicon more)
  settled : agree (opened.settle lexicon probes content) (twin.settle lexicon probes more)
  complete : agree ((opened.settle lexicon probes content).seeAll probes content)
    ((twin.settle lexicon probes more).seeAll probes more)
  wantTail : probes.wantTail content = probes.wantTail more
  wantScan : probes.wantScan (opened.settle lexicon probes content) =
    probes.wantScan (twin.settle lexicon probes more)

theorem Record.Abreast.course {lexicon : Lexicon} {probes : Probes} {content more : Bytes}
    {opened twin : Record} (abreast : Abreast agree lexicon probes content more opened twin)
    {faults others : Stage → Option FileError}
    (struck : ∀ stage ∈ Stage.probing, Option.Rel blames (faults stage) (others stage)) :
    EndsAlike blames agree (course faults lexicon probes content opened)
      (course others lexicon probes more twin) := by
  have asked (wanted : Bool) {stage : Stage} (probing : stage ∈ Stage.probing) :
      Option.Rel blames (if wanted then faults stage else none)
        (if wanted then others stage else none) := by
    cases wanted with
    | true => exact struck stage probing
    | false => exact .none
  have complete : EndsAlike blames agree _ _ := .complete abreast.complete
  unfold ShellSurvey.course
  dsimp only
  rw [← abreast.wantTail, ← abreast.wantScan]
  refine .failAt (struck .head (by decide)) abreast.start ?_ _
  refine .failAt (asked _ (by decide)) abreast.headSeen ?_ _
  exact .failAt (asked _ (by decide)) abreast.settled complete _

/-- Two regular files are classified alike if they are at every stage. -/
theorem classify_alike {world other : World} {path twin : String} {content more : Bytes}
    {mode otherMode : Nat} (file : world.disk.lookup false path = .ok (.file content mode))
    (twinFile : other.disk.lookup false twin = .ok (.file more otherMode))
    (struck : ∀ stage ∈ Stage.probing, Option.Rel blames
      (world.faults stage (stage.request path)) (other.faults stage (stage.request twin)))
    (backups : isBackupName (fileNameOf path) = isBackupName (fileNameOf twin))
    (unknown : agree { path := path } { path := twin })
    (named : agree (.ofName path mode) (.ofName twin otherMode)) {lexicon : Lexicon}
    {probes : Probes}
    (abreast : Record.Abreast agree lexicon probes content more (.ofEntry lexicon path mode)
      (.ofEntry lexicon twin otherMode)) :
    EndsAlike blames agree (classify world lexicon probes path)
      (classify other lexicon probes twin) := by
  have status := struck .status (by decide)
  cases backup : isBackupName (fileNameOf path) with
  | true =>
    have settled : Record.ofStatus? lexicon path (.file content mode) =
      some (Record.ofName path mode) := if_pos backup
    have twinSettled : Record.ofStatus? lexicon twin (.file more otherMode) =
      some (Record.ofName twin otherMode) := if_pos (backups.symm.trans backup)
    rw [classify_settled file settled, classify_settled twinFile twinSettled]
    exact .failAt status unknown (.complete named) _
  | false =>
    -- The stages after the first all go by the normal form of the path.
    have later : EndsAlike blames agree
        (course (fun stage => world.faults stage (stage.request path)) lexicon probes content _)
        (course (fun stage => other.faults stage (stage.request twin)) lexicon probes more _) :=
      abreast.course struck
    rw [classify_file file backup, classify_file twinFile (backups.symm.trans backup)]
    exact .failAt status unknown later _

end

end ShellSurvey
