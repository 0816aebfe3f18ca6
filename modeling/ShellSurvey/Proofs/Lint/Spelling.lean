import ShellSurvey.Proofs.Classify.Reference
import ShellSurvey.Proofs.Content.Scripts
import ShellSurvey.Proofs.Lexicon.Namesakes
import ShellSurvey.Proofs.Lint.Guarded
import ShellSurvey.Proofs.Survey.Yield

namespace ShellSurvey

/-- A record with the name of its interpreter in lower case. -/
def Record.lowered (record : Record) : Record :=
  { record with interpreter := .ofName (lowerCase record.interpreterName) }

theorem Record.interpreterName_lowered (record : Record) :
    record.lowered.interpreterName = lowerCase record.interpreterName :=
  Interpreter.name_ofName _

/-- No tool is known that could validate a script. -/
def LacksValidator (world : World) (record : Record) : Prop :=
  ∃ interpreter path,
    (validate world record).outcome = .failed (.unknownInterpreter interpreter path)

/-- A tool that is missing, or rejects a script, or breaks a validation off, is known all the same. -/
theorem lacksValidator_iff {world : World} {record : Record} :
    LacksValidator world record ↔ record.interpreterName ∉ validators.map Prod.fst := by
  obtain ⟨_, course, _⟩ := validation_along world record
  exact course.unknown_iff

/-- What the rule on traps takes a script for. -/
inductive TrapDialect where
  | zsh
  | bash
  | other
  deriving DecidableEq

/-- The dialect that goes with the name of an interpreter. -/
def TrapDialect.ofName (name : String) : TrapDialect :=
  if name = "zsh" then .zsh else if startsWith "bash" name.toList then .bash else .other

/-- The kind of finding that a dialect may come to. -/
def TrapDialect.kind : TrapDialect → FindingKind
  | .zsh => Kinds.zshListTraps
  | .bash => Kinds.bashErrtrace
  | .other => Kinds.subshellTraps

/-- Whether the statements of a script are an offence in a dialect. -/
def TrapDialect.offends (dialect : TrapDialect) (statements : List Line) : Bool :=
  match dialect with
  | .zsh => statements.any isListTrap
  | .bash => !statements.any setsErrtrace
  | .other => true

theorem dialectFindings_eq (record : Record) (statements : List Line) :
    dialectFindings record statements =
      let dialect := TrapDialect.ofName record.interpreterName
      reportIf (dialect.offends statements) dialect.kind record.path := by
  unfold dialectFindings TrapDialect.ofName
  dsimp only
  repeat' split
  all_goals rfl

/-- A script is judged by the rule of a dialect. -/
def Record.TakesRule (record : Record) (dialect : TrapDialect) : Prop :=
  ∀ statements, dialectFindings record statements =
    reportIf (dialect.offends statements) dialect.kind record.path

theorem Record.takesRule_iff {record : Record} {dialect : TrapDialect} :
    record.TakesRule dialect ↔ TrapDialect.ofName record.interpreterName = dialect := by
  constructor
  · intro takes
    have blank := takes []
    rw [dialectFindings_eq] at blank
    revert blank
    cases TrapDialect.ofName record.interpreterName <;> cases dialect <;>
      simp [reportIf, TrapDialect.offends, TrapDialect.kind, FindingKind.inFile, Kinds.bashErrtrace,
        Kinds.subshellTraps]
  · rintro rfl statements
    exact dialectFindings_eq record statements

/-- The kinds of the findings on the traps of a script. -/
def trapKinds (record : Record) (lines : List Line) : List FindingKind :=
  (trapFindings record lines).map Finding.kind

/-- A script that asks for a shell in capitals and does nothing but set a trap, which is an offence in every
dialect. -/
def capitalsScript : List Char := "#!/bin/BASH\ntrap cleanup EXIT\n".toList

theorem trapKinds_capitalsScript (record : Record) :
    trapKinds record (splitLines capitalsScript) =
      [(TrapDialect.ofName record.interpreterName).kind] := by
  have trap : statements (splitLines capitalsScript) = [(2, "trap cleanup EXIT".toList)] := by
    decide
  have sets : setsTrap ["trap cleanup EXIT".toList] = true := by decide
  have noExec : isExec "trap cleanup EXIT".toList = false := by decide
  have offends : (TrapDialect.ofName record.interpreterName).offends
      ["trap cleanup EXIT".toList] = true := by
    cases TrapDialect.ofName record.interpreterName <;> decide
  unfold trapKinds trapFindings
  simp only [trap, List.map_cons, List.map_nil, sets, if_true, List.filter_cons, noExec,
    Bool.false_eq_true, if_false, List.filter_nil, List.nil_append, dialectFindings_eq, offends,
    reportIf]
  rfl

/-- Scripts in one file have the same kinds of findings for the same dialect alone. -/
theorem trapKinds_eq_iff {record other : Record} (path : record.path = other.path) :
    trapKinds record = trapKinds other ↔
      TrapDialect.ofName record.interpreterName = TrapDialect.ofName other.interpreterName := by
  constructor
  · intro same
    have alone := congrFun same (splitLines capitalsScript)
    rw [trapKinds_capitalsScript, trapKinds_capitalsScript, List.singleton_inj] at alone
    revert alone
    cases TrapDialect.ofName record.interpreterName <;>
      cases TrapDialect.ofName other.interpreterName <;> decide
  · intro same
    funext lines
    unfold trapKinds trapFindings
    simp only [dialectFindings_eq, same, path]

/-- The names that the interpreter of a POSIX script can have in lower case: those of POSIX shells, those
that an extension implies, and those that stand for none in particular. -/
def posixNames : List String :=
  Standard.posixInterpreters ++ Standard.extensionInterpreters.map Prod.snd ++ [genericName, ""]

/-- Every tool goes by a name in lower case. -/
theorem lowerCase_of_mem_validators :
    ∀ name ∈ validators.map Prod.fst, lowerCase name = name := by
  decide +kernel

theorem lowerCase_of_mem_posixNames : ∀ name ∈ posixNames, lowerCase name = name := by
  decide +kernel

/-- Among these names, the rule for bash goes with the family of bash. -/
theorem ofName_eq_bash_iff : ∀ name ∈ posixNames,
    TrapDialect.ofName name = .bash ↔ name ∈ Standard.fullBash := by
  decide +kernel

/-- Of the names that start like bash, those of POSIX shells have no capitals. -/
theorem lowerCase_of_startsWith_bash {name : String} (starts : startsWith "bash" name.toList = true)
    (known : lowerCase name ∈ posixNames) : lowerCase name = name := by
  obtain ⟨rest, parts⟩ := List.isPrefixOf_iff_prefix.mp starts
  have lowered : (lowerCase name).toList =
      "bash".toList ++ lowerFrom ("bash".toList.reverse ++ []) rest := by
    rw [lowerCase, String.toList_ofList, ← parts, lowerFrom_small_append (by decide)]
  have endings : ∀ known ∈ posixNames, "bash".toList <+: known.toList →
      known.toList = "bash".toList ++ [] ∨ known.toList = "bash".toList ++ ['4'] := by
    decide +kernel
  have whole : name.toList = (lowerCase name).toList := by
    rcases endings _ known ⟨_, lowered.symm⟩ with plain | four
    · rw [plain] at lowered ⊢
      have none := eq_nil_of_lowerFrom_eq_nil (List.append_cancel_left lowered).symm
      rw [← parts, none]
    · have sign : IsSign '4' := by decide
      rw [four] at lowered ⊢
      have digit := sign.eq_of_lowerFrom_eq (List.append_cancel_left lowered).symm
      rw [← parts, digit]
  exact (String.toList_inj.mp whole).symm

/-- With capitals, a name is not taken for a dialect of its own. -/
theorem ofName_of_capitals {name : String} (known : lowerCase name ∈ posixNames)
    (capitals : lowerCase name ≠ name) : TrapDialect.ofName name = .other := by
  have noZsh : name ≠ "zsh" := by
    rintro rfl
    exact capitals (by decide +kernel)
  have noBash : startsWith "bash" name.toList ≠ true :=
    fun starts => capitals (lowerCase_of_startsWith_bash starts known)
  rw [TrapDialect.ofName, if_neg noZsh, if_neg noBash]

theorem mem_of_lookup_verdicts {yes no : List String} {name : String}
    (known : (verdicts yes no).lookup name = some true) : name ∈ yes := by
  have listed := mem_of_lookup known
  simpa [verdicts] using listed

/-- The first line or the names give a POSIX script an interpreter of a POSIX name. -/
theorem Record.Classifies.mem_posixNames {filename : String} {line : Bytes} {record : Record}
    (classifies : record.Classifies .standard filename line) (posix : record.posix = true) :
    lowerCase record.interpreterName ∈ posixNames := by
  have named {name : String} (known : name ∈ posixNames) : lowerCase name ∈ posixNames := by
    rw [lowerCase_of_mem_posixNames name known]
    exact known
  by_cases shebang : [0x23, 0x21] <+: line
  · obtain ⟨read, _, same, _, reads⟩ := classifies.announced shebang
    have listed := mem_of_lookup_verdicts (reads.mp posix).1
    rw [interpreterName, same]
    exact List.mem_append_left _ (List.mem_append_left _ listed)
  · obtain ⟨_, told, _⟩ := classifies.unannounced shebang
    rw [posix] at told
    rw [interpreterName, told]
    cases implied : Lexicon.standard.extensionInterpreter (extensionOf filename) with
    | none => exact named (List.mem_append_right _ List.mem_cons_self)
    | some name =>
      have listed : name ∈ Standard.extensionInterpreters.map Prod.snd :=
        List.mem_map_of_mem (mem_of_lookup implied)
      exact named (List.mem_append_left _ (List.mem_append_right _ listed))

/-- A POSIX script has an interpreter of a POSIX name, and that name tells whether it is for bash. -/
theorem mem_posixNames_of_classify {world : World} {probes : Probes} {path : String}
    {record : Record} (classified : classify world .standard probes path = .ok record)
    (posix : record.posix = true) :
    lowerCase record.interpreterName ∈ posixNames ∧
      record.bash = Lexicon.standard.isFullBash record.interpreterName := by
  obtain ⟨node, _, settled | ⟨content, mode, _, rfl⟩⟩ := classify_outcome classified
  · rcases Record.ofStatus?_cases settled with rfl | rfl | rfl | rfl
    · cases posix
    · cases posix
    · have nameless : lowerCase "" ∈ posixNames ∧ false = Lexicon.standard.isFullBash "" := by
        decide +kernel
      exact nameless
    · cases posix
  · have told := Record.told_ofEntry .standard path mode
    have concluded := ((told.seeHead content).seeTail probes content).conclude content
    have classifies := concluded.seeAll probes content
    exact ⟨classifies.mem_posixNames posix, classifies.bash⟩

/-- The name of an interpreter is spelled in lower case. -/
def Record.SpelledSmall (record : Record) : Prop :=
  lowerCase record.interpreterName = record.interpreterName

/-- How the spelling of an interpreter's name counts. -/
structure Record.SpellingCounts (world : World) (record : Record) : Prop where
  validator : LacksValidator world record ↔
    LacksValidator world record.lowered ∨ ¬ record.SpelledSmall
  traps : trapKinds record = trapKinds record.lowered ↔
    record.SpelledSmall ∨ record.bash = false ∧ lowerCase record.interpreterName ≠ "zsh"
  rule : record.TakesRule .bash ↔ record.bash = true ∧ record.SpelledSmall
  loweredRule : record.lowered.TakesRule .bash ↔ record.bash = true

theorem ofName_eq_zsh_iff {name : String} : TrapDialect.ofName name = .zsh ↔ name = "zsh" := by
  unfold TrapDialect.ofName
  split
  · next same => simp [same]
  · next other => split <;> simp [other]

/-- Names that start like bash or are zsh have dialects of their own. -/
theorem ofName_eq_other_iff {name : String} : TrapDialect.ofName name = .other ↔
    TrapDialect.ofName name ≠ .bash ∧ name ≠ "zsh" := by
  rw [Ne, Ne, ← ofName_eq_zsh_iff]
  cases TrapDialect.ofName name <;> simp

/-- A tool is known by a name in lower case only. -/
theorem lacksValidator_iff_lowered {world : World} {record : Record} :
    LacksValidator world record ↔
      LacksValidator world record.lowered ∨ ¬ record.SpelledSmall := by
  rw [lacksValidator_iff, lacksValidator_iff, Record.interpreterName_lowered]
  by_cases spelled : record.SpelledSmall
  · have same : lowerCase record.interpreterName = record.interpreterName := spelled
    rw [same]
    exact ⟨Or.inl, fun lacks => lacks.resolve_right (not_not_intro spelled)⟩
  · have unknown : record.interpreterName ∉ validators.map Prod.fst :=
      fun member => spelled (lowerCase_of_mem_validators _ member)
    exact ⟨fun _ => Or.inr spelled, fun _ => unknown⟩

/-- The validators and the rule on traps treat a POSIX script as what it was classified as if the name of
its interpreter is in lower case. With capitals in the name the script has no validator, and its traps
are judged by the rule for other shells, even if it is one for bash or zsh. -/
theorem classify_spelling_counts {world : World} {probes : Probes} {path : String} {record : Record}
    (classified : classify world .standard probes path = .ok record)
    (posix : record.posix = true) : record.SpellingCounts world := by
  obtain ⟨known, family⟩ := mem_posixNames_of_classify classified posix
  have lowered := record.interpreterName_lowered
  have bash : TrapDialect.ofName (lowerCase record.interpreterName) = .bash ↔
      record.bash = true := by
    rw [ofName_eq_bash_iff _ known, family, Lexicon.isFullBash, List.contains_iff_mem]
    rfl
  have loweredRule : record.lowered.TakesRule .bash ↔ record.bash = true := by
    rw [Record.takesRule_iff, lowered, bash]
  refine ⟨lacksValidator_iff_lowered, ?_, ?_, loweredRule⟩
  · have path : record.path = record.lowered.path := rfl
    rw [trapKinds_eq_iff path, lowered]
    by_cases spelled : record.SpelledSmall
    · have same : lowerCase record.interpreterName = record.interpreterName := spelled
      rw [same]
      exact ⟨fun _ => Or.inl spelled, fun _ => rfl⟩
    · rw [ofName_of_capitals known spelled, eq_comm, ofName_eq_other_iff, Ne, bash,
        Bool.not_eq_true, or_iff_right spelled]
  · rw [Record.takesRule_iff]
    by_cases spelled : record.SpelledSmall
    · have same : lowerCase record.interpreterName = record.interpreterName := spelled
      rw [← bash, same, and_iff_left spelled]
    · rw [ofName_of_capitals known spelled]
      exact ⟨nofun, fun taken => absurd taken.2 spelled⟩

/-- The world with nothing but that script. -/
def World.ofCapitals : World := .ofDisk (.ofScript (asciiBytes capitalsScript))

/-- The script is one for bash. -/
theorem classify_capitals : ∃ record,
    classify .ofCapitals .standard {} "deploy" = .ok record ∧ record.posix = true ∧
      record.bash = true ∧ record.interpreterName = "BASH" := by
  have found : World.ofCapitals.disk.lookup false "deploy" =
      .ok (.file (asciiBytes capitalsScript) 0o755) := Disk.lookup_ofScript _
  have calm : World.ofCapitals.Calm "deploy" := fun _ _ => rfl
  refine ⟨_, classify_calm found (by decide) calm, ?_, ?_, ?_⟩ <;> decide +kernel

theorem classify_spelling_counts_capitals : ∃ record,
    classify .ofCapitals .standard {} "deploy" = .ok record ∧ record.posix = true ∧
      ¬ record.SpelledSmall ∧ record.SpellingCounts .ofCapitals := by
  obtain ⟨record, classified, posix, _, name⟩ := classify_capitals
  refine ⟨record, classified, posix, ?_, classify_spelling_counts classified posix⟩
  rw [Record.SpelledSmall, name]
  decide +kernel

/-- The script is not treated as one for bash, and would be with the name in lower case. -/
theorem capitals_unlike_small : ∃ record,
    classify .ofCapitals .standard {} "deploy" = .ok record ∧ record.posix = true ∧
      (LacksValidator .ofCapitals record ∧ ¬ LacksValidator .ofCapitals record.lowered) ∧
      (record.bash = true ∧ ¬ record.TakesRule .bash) ∧
      trapKinds record (scriptLines (asciiBytes capitalsScript)) ≠
        trapKinds record.lowered (scriptLines (asciiBytes capitalsScript)) := by
  obtain ⟨record, classified, posix, bash, name⟩ := classify_capitals
  have lowered : record.lowered.interpreterName = "bash" := by
    rw [record.interpreterName_lowered, name]
    decide +kernel
  have other : TrapDialect.ofName "BASH" = .other := by decide
  refine ⟨record, classified, posix, ⟨?_, ?_⟩, ⟨bash, ?_⟩, ?_⟩
  · rw [lacksValidator_iff, name]
    decide
  · rw [lacksValidator_iff, lowered]
    decide
  · rw [Record.takesRule_iff, name, other]
    decide
  · rw [scriptLines_asciiBytes (by decide), trapKinds_capitalsScript, trapKinds_capitalsScript,
      name, lowered]
    decide

end ShellSurvey
