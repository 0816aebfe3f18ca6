import ShellSurvey.Proofs.Lexicon.Namesakes
import ShellSurvey.Proofs.Survey.Observe

namespace ShellSurvey

/-- No name that is taken for a POSIX script has an extension that is taken for something else. -/
def Lexicon.NamesAgree (lexicon : Lexicon) : Prop :=
  ∀ entry ∈ lexicon.filenameVerdicts, entry.2 = true →
    lexicon.extensionVerdicts.lookup (extensionOf entry.1) ≠ some false

theorem Lexicon.namesAgree_standard : Lexicon.standard.NamesAgree := by
  unfold NamesAgree
  decide +kernel

theorem Lexicon.NamesAgree.filenameVerdict_ne {lexicon : Lexicon} (agree : lexicon.NamesAgree)
    (free : lexicon.SigmaFree) {name : String}
    (vetoed : lexicon.extensionVerdict (extensionOf name) = some false) :
    lexicon.filenameVerdict name ≠ some true := by
  intro positive
  have entry : (lowerCase name, true) ∈ lexicon.filenameVerdicts := mem_of_lookup positive
  rw [free.extensionVerdict] at vetoed
  exact agree _ entry rfl vetoed

/-- A record that is of no POSIX script, and will not become one on account of its extension. -/
structure Record.Vetoed (lexicon : Lexicon) (record : Record) : Prop where
  extension : lexicon.extensionVerdict record.extension = some false
  posix : record.posix = false

section

variable {lexicon : Lexicon} {record : Record}

theorem Record.Vetoed.implyInterpreter (vetoed : record.Vetoed lexicon) :
    (record.implyInterpreter lexicon).Vetoed lexicon := by
  rw [implyInterpreter_eq]
  exact ⟨vetoed.extension, vetoed.posix⟩

theorem Record.Vetoed.seeHead (vetoed : record.Vetoed lexicon) (content : Bytes) :
    (record.seeHead lexicon content).Vetoed lexicon := ⟨vetoed.extension, vetoed.posix⟩

theorem Record.Vetoed.seeTail (vetoed : record.Vetoed lexicon) (probes : Probes)
    (content : Bytes) : (record.seeTail probes content).Vetoed lexicon := by
  unfold Record.seeTail
  split
  · exact ⟨vetoed.extension, vetoed.posix⟩
  · exact vetoed

theorem Record.Vetoed.namesAllowPosix (vetoed : record.Vetoed lexicon) :
    record.namesAllowPosix lexicon = false := by
  rw [Record.namesAllowPosix, vetoed.extension]
  rfl

/-- A shebang counts only along with the names, and without one they keep what they have said. -/
theorem Record.Vetoed.conclude (vetoed : record.Vetoed lexicon) (content : Bytes) :
    (record.conclude lexicon content).Vetoed lexicon := by
  unfold Record.conclude
  rcases record.heed_cases lexicon (FirstLine.ofContent lexicon content).line with
    ⟨_, _, _, heeded⟩ | ⟨_, heeded⟩
  · rw [heeded, vetoed.namesAllowPosix, Bool.and_false]
    exact ⟨vetoed.extension, rfl⟩
  · rw [heeded]
    exact ⟨vetoed.extension, vetoed.posix⟩

theorem Record.Vetoed.seeAll (vetoed : record.Vetoed lexicon) (probes : Probes)
    (content : Bytes) : (record.seeAll probes content).Vetoed lexicon := by
  unfold Record.seeAll
  split
  · exact ⟨vetoed.extension, vetoed.posix⟩
  · exact vetoed

end

theorem Record.Vetoed.along {lexicon : Lexicon} {opened : Record} (vetoed : opened.Vetoed lexicon)
    (probes : Probes) (content : Bytes) :
    Record.Along (fun record => record.posix = false) lexicon probes content opened := by
  have headSeen := vetoed.seeHead content
  have settled := (headSeen.seeTail probes content).conclude content
  exact {
    start := vetoed.posix
    headSeen := headSeen.posix
    settled := settled.posix
    complete := (settled.seeAll probes content).posix }

section

variable {lexicon : Lexicon} (free : lexicon.SigmaFree) (agree : lexicon.NamesAgree) {path : String}
  (veto : lexicon.extensionVerdict (extensionOf (fileNameOf path)) = some false)
include free agree veto

theorem Record.vetoed_judgeName (mode : Nat) :
    ((Record.ofName path mode).judgeName lexicon).Vetoed lexicon := by
  have noPositive := agree.filenameVerdict_ne free veto
  refine ⟨by simpa only [judgeName, ofName] using veto, ?_⟩
  simp only [judgeName, ofName, veto]
  cases named : lexicon.filenameVerdict (fileNameOf path) with
  | none => rfl
  | some verdict =>
    cases verdict with
    | true => exact absurd named noPositive
    | false => rfl

theorem Record.posix_ofStatus?_of_veto {node : Node} {record : Record}
    (settled : Record.ofStatus? lexicon path node = some record) : record.posix = false := by
  have judged := Record.vetoed_judgeName free agree veto node.mode
  rcases Record.ofStatus?_cases settled with rfl | rfl | rfl | rfl
  · rfl
  · rfl
  · exact judged.posix
  · rfl

end

/-- An extension that speaks against POSIX in the standard lexicon, in whatever letters it is written,
is never overruled: not by the name or the content of the file, nor by what kind of entry it is, and
the part of a record that a failure leaves behind says no more. -/
theorem classify_keeps_veto {path : String}
    (veto : Lexicon.standard.extensionVerdict (extensionOf (fileNameOf path)) = some false)
    (world : World) (probes : Probes) :
    (Sighting.ofResult (classify world .standard probes path)).record.posix = false := by
  have free := Lexicon.sigmaFree_standard
  have agree := Lexicon.namesAgree_standard
  have ends : EndsWith (fun record => record.posix = false)
      (classify world .standard probes path) := by
    refine classify_endsWith ?_ (fun node record => ?_) (fun content mode => ?_) world
    · rfl
    · exact Record.posix_ofStatus?_of_veto free agree veto
    · exact (Record.vetoed_judgeName free agree veto mode).implyInterpreter.along probes content
  exact ends

/-- A script for `sh` under the name of one for `csh`. -/
def disguiseDisk : Disk where
  entries := [("deploy.CSH",
    .file [0x23, 0x21, 0x2F, 0x62, 0x69, 0x6E, 0x2F, 0x73, 0x68, 0x0A] 0o755)]
  ordered := ⟨fun _ member => absurd member List.not_mem_nil, trivial, trivial⟩

theorem classify_keeps_veto_disguise :
    Lexicon.standard.extensionVerdict (extensionOf (fileNameOf "deploy.CSH")) = some false ∧
      ∃ record, classify (.ofDisk disguiseDisk) .standard {} "deploy.CSH" = .ok record ∧
        record.posix = false := by
  have veto : Lexicon.standard.extensionVerdict (extensionOf (fileNameOf "deploy.CSH")) =
    some false := by decide +kernel
  have file : (World.ofDisk disguiseDisk).disk.lookup false "deploy.CSH" =
      .ok (.file [0x23, 0x21, 0x2F, 0x62, 0x69, 0x6E, 0x2F, 0x73, 0x68, 0x0A] 0o755) := by
    refine Disk.lookup_name rfl ?_ ?_ ?_ ?_ ?_ ?_ <;> decide
  have calm : (World.ofDisk disguiseDisk).Calm "deploy.CSH" := fun _ _ => rfl
  have complete := @classify_calm _ .standard {} _ _ _ file (by decide) calm
  have kept := classify_keeps_veto veto (.ofDisk disguiseDisk) {}
  rw [complete] at kept
  exact ⟨veto, _, complete, kept⟩

end ShellSurvey
