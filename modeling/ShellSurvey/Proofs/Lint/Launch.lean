import ShellSurvey.Proofs.Survey.Yield
import ShellSurvey.Rule.Property

namespace ShellSurvey

/-- The names of configuration files that have no extension. -/
def bareConfigNames : List String :=
  Standard.configFilenames.filter fun name => !name.toList.contains '.'

/-- No bits are set among some of those of which none is set. -/
theorem hasBits_part {permissions : Int} {mask part : Nat} (inside : mask &&& part = part)
    (none : hasBits permissions mask = false) : hasBits permissions part = false := by
  rw [hasBits, bne_eq_false_iff_eq] at none ⊢
  rw [← inside, ← Nat.and_assoc, none, Nat.zero_and]

/-- A file that nobody may run is asked for an extension or for executable bits if it has no extension. -/
theorem PropertyRule.permissions_unrunnable {record : Record}
    (unrunnable : hasBits record.permissions anyExecute = false) :
    PropertyRule.permissions.check record =
      reportIf (record.extension = "") Kinds.ambiguousLaunch record.path := by
  have owner : hasBits record.permissions ownerExecute = false := hasBits_part (by decide) unrunnable
  rw [check, unrunnable, owner, Bool.and_false, if_neg Bool.false_ne_true, ambiguous]
  by_cases bare : record.extension = "" <;> simp [bare]

/-- A record that agrees with another one on the names and on whether it is a library's. -/
structure Record.NamedAs (record judged : Record) : Prop where
  path : record.path = judged.path
  filename : record.filename = judged.filename
  extension : record.extension = judged.extension
  library : record.library = judged.library

theorem Record.namedAs_whole (lexicon : Lexicon) (probes : Probes) (content : Bytes)
    (judged : Record) :
    (((judged.implyInterpreter lexicon).settle lexicon probes content).seeAll probes
      content).NamedAs judged := by
  obtain ⟨_, whole⟩ := seeAll_frame probes content
    ((judged.implyInterpreter lexicon).settle lexicon probes content)
  obtain ⟨_, _, _, _, _, _, _, _, settled⟩ :=
    settle_frame lexicon probes content (judged.implyInterpreter lexicon)
  rw [whole, settled, implyInterpreter_eq]
  exact ⟨rfl, rfl, rfl, rfl⟩

section

variable {world : World} {lexicon : Lexicon} {probes : Probes} {path : String} {record : Record}

/-- Only the names and the mode tell that a record is a library's. -/
theorem Record.namedAs_of_classify (classified : classify world lexicon probes path = .ok record)
    (library : record.library = true) :
    ∃ mode, record.NamedAs ((Record.ofName path mode).judgeName lexicon) := by
  obtain ⟨node, _, settled | ⟨content, mode, _, rfl⟩⟩ := classify_outcome classified
  · refine ⟨node.mode, ?_⟩
    have named := Record.ofStatus?_cases settled
    dsimp only at named
    generalize (Record.ofName path node.mode).judgeName lexicon = judged at named ⊢
    rcases named with rfl | rfl | rfl | rfl
    · cases library
    · cases library
    · exact ⟨rfl, rfl, rfl, rfl⟩
    · exact ⟨rfl, rfl, rfl, rfl⟩
  · exact ⟨mode, Record.namedAs_whole lexicon probes content _⟩

/-- A library goes by its names, and these have an extension or are a configuration file's. -/
theorem library_of_classify (classified : classify world lexicon probes path = .ok record)
    (library : record.library = true) :
    record.path = path ∧ record.filename = fileNameOf path ∧
      record.extension = extensionOf (fileNameOf path) ∧
      (lexicon.isConfig record.extension record.filename = true ∨ record.extension ≠ "") := by
  obtain ⟨mode, named⟩ := Record.namedAs_of_classify classified library
  have told := named.library.symm.trans library
  rw [named.path, named.filename, named.extension]
  simp only [Record.judgeName, Record.ofName, Bool.and_eq_true, Bool.or_eq_true, bne_iff_ne]
    at told ⊢
  exact ⟨trivial, trivial, trivial, told.1⟩

end

/-- The standard lexicon has no configuration file in mind just because there is no extension. -/
theorem isConfig_bare {filename : String} :
    Lexicon.standard.isConfig "" filename = true ↔ lowerCase filename ∈ Standard.configFilenames := by
  have noExtension : Lexicon.standard.configExtensions.contains (lowerCase "") = false := by decide
  rw [Lexicon.isConfig, noExtension, Bool.false_or, List.contains_iff_mem]
  rfl

theorem extensionOf_bare {filename : String} :
    extensionOf filename = "" ↔ (!(lowerCase filename).toList.contains '.') = true := by
  have dot : IsSign '.' := by decide
  rw [extensionOf_eq_empty_iff, ← dot.mem_lowerCase_iff filename]
  simp

/-- Of a file that is meant to be sourced and that nobody may run, the rule on permissions reports nothing,
if and only if the name is none of those of configuration files without an extension. Files with these names
are reported as ambiguous, while other rules spare them as configuration files. -/
theorem launch_judged {world : World} {probes : Probes} {path : String} {record : Record}
    (classified : classify world .standard probes path = .ok record)
    (library : record.library = true)
    (unrunnable : hasBits record.permissions anyExecute = false) :
    (PropertyRule.permissions.check record = [] ↔
        lowerCase (fileNameOf path) ∉ bareConfigNames) ∧
      (lowerCase (fileNameOf path) ∈ bareConfigNames →
        PropertyRule.permissions.check record = [Kinds.ambiguousLaunch.inFile path] ∧
        PropertyRule.shebang.check record = [] ∧ PropertyRule.modulino.check record = []) := by
  obtain ⟨onPath, filename, extension, config⟩ := library_of_classify classified library
  have bare : record.extension = "" ↔ lowerCase (fileNameOf path) ∈ bareConfigNames := by
    rw [bareConfigNames, List.mem_filter, ← extensionOf_bare, ← extension]
    refine ⟨fun none => ⟨?_, none⟩, And.right⟩
    have named := config.resolve_right (not_not_intro none)
    rw [none, filename, isConfig_bare] at named
    exact named
  have checked := PropertyRule.permissions_unrunnable unrunnable
  rw [checked, ← bare]
  refine ⟨by simp [reportIf], fun none => ?_⟩
  have named : record.isConfig = true := config.resolve_right (not_not_intro none)
  refine ⟨?_, if_pos named, ?_⟩
  · rw [reportIf, decide_eq_true none, if_pos rfl, onPath]
  · rw [PropertyRule.check, named, Bool.not_true, Bool.false_and]
    rfl

/-- A disk with nothing but an empty file that everybody may read and nobody run. -/
def Disk.ofReadable (name : String) : Disk where
  entries := [(name, .file [] 0o644)]
  ordered := ⟨fun _ member => absurd member List.not_mem_nil, trivial, trivial⟩

theorem launch_judged_extension : ∃ record,
    classify (.ofDisk (.ofReadable "lib.sh")) .standard {} "lib.sh" = .ok record ∧
      record.library = true ∧ hasBits record.permissions anyExecute = false ∧
      PropertyRule.permissions.check record = [] := by
  have found : (World.ofDisk (.ofReadable "lib.sh")).disk.lookup false "lib.sh" =
      .ok (.file [] 0o644) := by
    refine Disk.lookup_name rfl ?_ ?_ ?_ ?_ ?_ ?_ <;> decide
  have calm : (World.ofDisk (.ofReadable "lib.sh")).Calm "lib.sh" := fun _ _ => rfl
  have classified : classify (.ofDisk (.ofReadable "lib.sh")) .standard {} "lib.sh" = .ok _ :=
    classify_calm found (by decide) calm
  have library : (((Record.ofEntry .standard "lib.sh" 0o644).settle .standard {} []).seeAll {}
      []).library = true := by decide +kernel
  have unrunnable : hasBits (((Record.ofEntry .standard "lib.sh" 0o644).settle .standard {}
      []).seeAll {} []).permissions anyExecute = false := by decide +kernel
  have other : lowerCase (fileNameOf "lib.sh") ∉ bareConfigNames := by decide +kernel
  exact ⟨_, classified, library, unrunnable,
    (launch_judged classified library unrunnable).1.mpr other⟩

/-- The configuration of a shell is reported for what it is meant to be. -/
theorem bare_config_reported : ∃ record,
    classify (.ofDisk (.ofReadable "zshrc")) .standard {} "zshrc" = .ok record ∧
      record.library = true ∧ hasBits record.permissions anyExecute = false ∧
      PropertyRule.permissions.check record = [Kinds.ambiguousLaunch.inFile "zshrc"] := by
  have found : (World.ofDisk (.ofReadable "zshrc")).disk.lookup false "zshrc" =
      .ok (.file [] 0o644) := by
    refine Disk.lookup_name rfl ?_ ?_ ?_ ?_ ?_ ?_ <;> decide
  have calm : (World.ofDisk (.ofReadable "zshrc")).Calm "zshrc" := fun _ _ => rfl
  refine ⟨_, classify_calm found (by decide) calm, ?_, ?_, ?_⟩
  · decide +kernel
  · decide +kernel
  · rw [PropertyRule.permissions_unrunnable (by decide +kernel), reportIf,
      decide_eq_true (by decide +kernel), if_pos rfl]
    exact congrArg (fun path => [Kinds.ambiguousLaunch.inFile path]) (by decide +kernel)

end ShellSurvey
