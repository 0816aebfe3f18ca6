import ShellSurvey.Proofs.Classify.Reference
import ShellSurvey.Proofs.Survey.Yield

namespace ShellSurvey

/-- The program that a shebang names, a launcher in front of it aside. -/
def shebangProgram? (text : String) : Option String :=
  (((shebangCommand? text).bind List.head?).map baseName).filter (· ≠ "")

/-- How a file comes to be read by some shell or other, and whether it is a POSIX script then. -/
inductive AnyShell (filename : String) (line : Bytes) : Bool → Prop where
  | byName : ¬ [0x23, 0x21] <+: line →
      (Lexicon.standard.filenameVerdict filename).getD
        ((Lexicon.standard.extensionVerdict (extensionOf filename)).getD false) = true →
      Lexicon.standard.extensionInterpreter (extensionOf filename) = none →
      AnyShell filename line true
  | noProgram : [0x23, 0x21] <+: line → shebangProgram? (lineText line) = none →
      Lexicon.standard.extensionInterpreter (extensionOf filename) = none →
      AnyShell filename line false
  | generic : [0x23, 0x21] <+: line → shebangProgram? (lineText line) = some genericName →
      AnyShell filename line false

theorem AnyShell.posix_iff {filename : String} {line : Bytes} {posix : Bool}
    (read : AnyShell filename line posix) : posix = true ↔ ¬ [0x23, 0x21] <+: line := by
  cases read with
  | byName unannounced _ _ => exact ⟨fun _ => unannounced, fun _ => rfl⟩
  | noProgram announced _ _ => exact ⟨nofun, fun unannounced => absurd announced unannounced⟩
  | generic announced _ => exact ⟨nofun, fun unannounced => absurd announced unannounced⟩

theorem Interpreter.ofName_eq_generic_iff {name : String} :
    ofName name = .genericPosix ↔ name = genericName := by
  unfold ofName
  split
  · next empty =>
    subst empty
    decide
  · split <;> simp_all

/-- No name implies a shell of unknown dialect. -/
theorem implied_ne_generic :
    (∀ entry ∈ Standard.extensionInterpreters, entry.2 ≠ "") ∧
      ∀ entry ∈ Standard.filenameInterpreters, entry.2 ≠ "" ∧ entry.2 ≠ genericName := by
  decide +kernel

theorem ofFallback_eq_generic_iff {extension : String} :
    Interpreter.ofFallback (Lexicon.standard.extensionInterpreter extension) = .genericPosix ↔
      Lexicon.standard.extensionInterpreter extension = none := by
  cases implied : Lexicon.standard.extensionInterpreter extension with
  | none => exact ⟨fun _ => rfl, fun _ => rfl⟩
  | some name =>
    have named : name ≠ "" := implied_ne_generic.1 _ (mem_of_lookup implied)
    simp [Interpreter.ofFallback, named]

theorem ofProgram_eq_generic_iff {program : String} :
    Interpreter.ofProgram .standard program = .genericPosix ↔ program = genericName := by
  unfold Interpreter.ofProgram
  cases known : Lexicon.standard.filenameInterpreter program with
  | none => exact Interpreter.ofName_eq_generic_iff
  | some name =>
    obtain ⟨named, particular⟩ := implied_ne_generic.2 _ (mem_of_lookup known)
    dsimp only
    rw [if_neg named, Interpreter.ofName_eq_generic_iff]
    refine ⟨fun same => absurd same particular, ?_⟩
    rintro rfl
    have unknown : Lexicon.standard.filenameInterpreter genericName = none := by decide +kernel
    cases unknown.symm.trans known

/-- A shebang leads to some shell or other if it names none and none is implied, or if it says so. -/
theorem Shebang.interpreter_eq_generic_iff {extension text : String} {read : Shebang}
    (parsed : parse? .standard (Lexicon.standard.extensionInterpreter extension) text = some read) :
    read.interpreter = .genericPosix ↔
      shebangProgram? text = none ∧ Lexicon.standard.extensionInterpreter extension = none ∨
        shebangProgram? text = some genericName := by
  obtain ⟨words, command, rfl⟩ := Option.map_eq_some_iff.mp parsed
  unfold shebangProgram?
  rw [command]
  cases words with
  | nil => simpa using ofFallback_eq_generic_iff
  | cons word flags =>
    by_cases nameless : baseName word = ""
    · simpa [nameless] using ofFallback_eq_generic_iff
    · have filled : genericName ≠ "" := by decide
      simpa [nameless, filled] using ofProgram_eq_generic_iff

theorem not_readsPosix_generic :
    Lexicon.standard.interpreterVerdicts.lookup (lowerCase genericName) = none := by decide +kernel

theorem Record.Classifies.anyShell_iff {filename : String} {line : Bytes} {record : Record}
    (classifies : record.Classifies .standard filename line) :
    record.interpreter = .genericPosix ↔ AnyShell filename line record.posix := by
  by_cases announced : [0x23, 0x21] <+: line
  · obtain ⟨read, parsed, same, _, reads⟩ := classifies.announced announced
    rw [same, Shebang.interpreter_eq_generic_iff parsed]
    have notPosix (generic : read.interpreter = .genericPosix) : record.posix = false := by
      rw [Bool.eq_false_iff, ne_eq, reads, generic]
      intro known
      cases not_readsPosix_generic.symm.trans known.1
    refine ⟨fun route => ?_, fun reached => ?_⟩
    · rw [notPosix ((Shebang.interpreter_eq_generic_iff parsed).mpr route)]
      rcases route with ⟨noProgram, unimplied⟩ | generic
      · exact .noProgram announced noProgram unimplied
      · exact .generic announced generic
    · generalize record.posix = posix at reached
      cases reached with
      | byName unannounced _ _ => exact absurd announced unannounced
      | noProgram _ noProgram unimplied => exact Or.inl ⟨noProgram, unimplied⟩
      | generic _ generic => exact Or.inr generic
  · obtain ⟨named, told, _⟩ := classifies.unannounced announced
    rw [told]
    generalize record.posix = posix at named
    constructor
    · intro generic
      cases implied : Lexicon.standard.extensionInterpreter (extensionOf filename) with
      | some name =>
        rw [implied] at generic
        cases generic
      | none =>
        cases posix with
        | true => exact .byName announced named.symm implied
        | false =>
          rw [implied] at generic
          cases generic
    · intro reached
      cases reached with
      | byName _ _ unimplied =>
        rw [unimplied]
        rfl
      | noProgram shebang _ _ => exact absurd shebang announced
      | generic shebang _ => exact absurd shebang announced

/-- What is read by some shell or other is taken for a POSIX script exactly if it has no shebang. A shebang
that names no program, or the shell of unknown dialect, takes that away even from a file whose name is that
of a POSIX script. -/
theorem generic_posix_iff {world : World} {probes : Probes} {path : String} {content : Bytes}
    {mode : Nat} {record : Record}
    (file : world.disk.lookup false path = .ok (.file content mode))
    (classified : classify world .standard probes path = .ok record)
    (generic : record.interpreter = .genericPosix) :
    AnyShell (fileNameOf path) (candidateLine .standard content) record.posix ∧
      (record.posix = true ↔ ¬ [0x23, 0x21] <+: candidateLine .standard content) := by
  obtain ⟨node, found, settled | ⟨sameContent, sameMode, rfl, whole⟩⟩ := classify_outcome classified
  · rcases Record.ofStatus?_cases settled with rfl | rfl | rfl | rfl <;> cases generic
  · cases file.symm.trans found
    have told := Record.told_ofEntry .standard path mode
    have concluded := ((told.seeHead content).seeTail probes content).conclude content
    have classifies := concluded.seeAll probes content
    rw [← Record.settle, ← whole] at classifies
    have reached := classifies.anyShell_iff.mp generic
    exact ⟨reached, reached.posix_iff⟩

/-- A disk with nothing but a file that POSIX shells start from. -/
def profileDisk (content : Bytes) : Disk where
  entries := [("profile", .file content 0o644)]
  ordered := ⟨fun _ member => absurd member List.not_mem_nil, trivial, trivial⟩

theorem profileDisk_lookup (content : Bytes) :
    (World.ofDisk (profileDisk content)).disk.lookup false "profile" = .ok (.file content 0o644) := by
  refine Disk.lookup_name rfl ?_ ?_ ?_ ?_ ?_ ?_ <;> decide

theorem profileDisk_classify (content : Bytes) :
    classify (.ofDisk (profileDisk content)) .standard {} "profile" =
      .ok (((Record.ofEntry .standard "profile" 0o644).settle .standard {} content).seeAll {}
        content) :=
  classify_calm (profileDisk_lookup content) (by decide) fun _ _ => rfl

theorem generic_posix_iff_profile : ∃ record,
    classify (.ofDisk (profileDisk [])) .standard {} "profile" = .ok record ∧
      record.interpreter = .genericPosix ∧ record.posix = true := by
  have generic : (((Record.ofEntry .standard "profile" 0o644).settle .standard {} []).seeAll {}
      []).interpreter = .genericPosix := by decide +kernel
  have classified := profileDisk_classify []
  obtain ⟨_, posix⟩ := generic_posix_iff (profileDisk_lookup []) classified generic
  exact ⟨_, classified, generic, posix.mpr (by decide)⟩

/-- An empty shebang unmakes a POSIX script, though nothing speaks against it. -/
theorem profile_with_bare_shebang : ∃ record,
    classify (.ofDisk (profileDisk [0x23, 0x21, 0x0A])) .standard {} "profile" = .ok record ∧
      record.interpreter = .genericPosix ∧ record.posix = false ∧
      Lexicon.standard.extensionVerdict record.extension = none ∧
      Lexicon.standard.filenameVerdict record.filename = some true := by
  refine ⟨_, profileDisk_classify [0x23, 0x21, 0x0A], ?_⟩
  decide +kernel

end ShellSurvey
