import ShellSurvey.Proofs.CommandLine.Performed
import ShellSurvey.Proofs.Json.Printable
import ShellSurvey.Proofs.Record.RoundTrip
import ShellSurvey.Proofs.Survey.Unprobed
import ShellSurvey.Proofs.Survey.Yield
import ShellSurvey.Proofs.Walk.Coverage

namespace ShellSurvey

/-- Texts that each end with a separator are told apart again if the separator is in none of them. -/
theorem splitAt_join {separator : Char} {texts : List String}
    (free : ∀ text ∈ texts, separator ∉ text.toList) :
    splitAt separator (String.join (texts.map (· ++ .ofList [separator]))).toList =
      texts.map String.toList ++ [[]] := by
  induction texts with
  | nil => rfl
  | cons text rest ih =>
    obtain ⟨here, later⟩ := List.forall_mem_cons.mp free
    rw [List.map_cons, String.join_cons, String.toList_append, String.toList_append,
      String.toList_ofList, List.append_assoc, List.singleton_append,
      splitAt_append_cons here, ih later, List.map_cons, List.cons_append]

/-- A script that a mode asks for: no machine made it, its interpreter is none of those named to be
excluded, and it is of the mode. -/
def FindMode.Wants (mode : FindMode) (excluded : List String) (record : Record) : Prop :=
  record.machineGenerated = false ∧
    (record.interpreterName ∈ excluded → record.interpreterName = "") ∧
    match mode with
    | .posix => record.posix = true
    | .plainSh => record.posix = true ∧
        (record.interpreterName = "sh" ∨ record.interpreterName = genericName)
    | .altShell => record.altShellScript = true

instance (mode : FindMode) (excluded : List String) (record : Record) :
    Decidable (mode.Wants excluded record) :=
  match mode with
  | .posix | .altShell => inferInstanceAs (Decidable (_ ∧ _ ∧ _ = true))
  | .plainSh => inferInstanceAs (Decidable (_ ∧ _ ∧ _ = true ∧ _))

theorem FindMode.finds_iff (mode : FindMode) (excluded : List String) (record : Record) :
    mode.finds (excluded.filter (· ≠ "")) record = true ↔ mode.Wants excluded record := by
  have listed : (excluded.filter (· ≠ "")).contains record.interpreterName = false ↔
      (record.interpreterName ∈ excluded → record.interpreterName = "") := by
    rw [Bool.eq_false_iff, ne_eq, List.contains_iff_mem, List.mem_filter, not_and]
    simp
  unfold finds Wants
  rw [Bool.and_eq_true, Bool.and_eq_true, Bool.not_eq_true', Bool.not_eq_true', listed, and_assoc]
  cases mode <;> simp [accepts]

theorem FindMode.finds_unprobed (mode : FindMode) (excluded : List String) (record : Record) :
    mode.finds excluded record.unprobed = mode.finds excluded record := by
  cases mode <;> rfl

/-- Reading a record back keeps all that a search asks about. -/
theorem FindMode.wants_reread (mode : FindMode) (excluded : List String) (record : Record) :
    mode.Wants excluded record.reread ↔ mode.Wants excluded record := by
  have name : record.reread.interpreterName = record.interpreterName :=
    Interpreter.name_ofName record.interpreter.name
  unfold Wants
  rw [name]
  cases mode <;> exact Iff.rfl

/-- No directory is asked for. -/
theorem FindMode.Wants.noDirectory {mode : FindMode} {excluded : List String} {record : Record}
    (wanted : mode.Wants excluded record) (coherent : record.Coherent) :
    record.directory = false := by
  cases directory : record.directory with
  | false => rfl
  | true =>
    obtain ⟨_, _, ofMode⟩ := wanted
    rw [coherent.directory directory] at ofMode
    cases mode with
    | posix => cases ofMode
    | plainSh => cases ofMode.1
    | altShell => cases ofMode

theorem Record.Coherent.integerFlaw? {record : Record} (coherent : record.Coherent) :
    integerFlaw? record.permissions = none := by
  obtain ⟨low, high⟩ := coherent.permissions
  have digits : tenTo 3 ≤ tenTo integerDigitLimit := tenTo_le_tenTo (by decide)
  have thousand : tenTo 3 = 1000 := by decide
  rw [integerFlaw?_eq_none_iff]
  omega

/-- A dump decodes to records: each is read from a text of its own, whatever depth of nesting its reader
admits, and those texts are the lines of a dump that is not laid out over several. -/
def DecodesTo (out : String) (layout : Layout) (records : List Record) : Prop :=
  ∃ texts : List String, out = String.join (texts.map (· ++ "\n")) ∧
    (layout = .compact → splitAt '\n' out.toList = texts.map String.toList ++ [[]]) ∧
    ∀ limit, 2 ≤ limit →
      texts.map (LooseRecord.parse limit) = records.map fun record => .ok record.loosen

theorem decodesTo_written {records : List Record}
    (coherent : ∀ record ∈ records, record.Coherent) (layout : Layout) :
    DecodesTo (String.join (records.map fun record => record.jsonText layout ++ "\n")) layout
      (records.map Record.reread) := by
  refine ⟨records.map (Record.jsonText · layout), ?_, ?_, ?_⟩
  · rw [List.map_map]
    rfl
  · rintro rfl
    have free : ∀ text ∈ records.map (Record.jsonText · .compact), '\n' ∉ text.toList := by
      intro text member
      obtain ⟨record, _, rfl⟩ := List.mem_map.mp member
      exact Json.lineFeed_not_mem_text record.tidy_toJson
    have lines := splitAt_join free
    rw [List.map_map] at lines
    exact lines
  · intro limit deep
    rw [List.map_map, List.map_map]
    refine List.map_congr_left fun record member => ?_
    have parsed := LooseRecord.parse_jsonText record layout deep
    rw [(coherent record member).integerFlaw?] at parsed
    exact parsed

/-- A search that ends each path with a NUL, next to a dump: it prints the paths of the dumped records
that it asks for. -/
def Picks (found dumped : String) (layout : Layout) (mode : FindMode) (excluded : List String) :
    Prop :=
  ∃ records, DecodesTo dumped layout records ∧
    splitAt '\x00' found.toList =
      ((records.filter fun record => mode.Wants excluded record).map fun record =>
        record.path.toList) ++ [[]]

/-- What a search keeps of the records that it comes upon is what it asks for of those in a dump. -/
theorem paths_finds_unprobed {records : List Record}
    (coherent : ∀ record ∈ records, record.Coherent) (mode : FindMode) (excluded : List String) :
    ((records.map Record.unprobed).filter (mode.finds (excluded.filter (· ≠ "")))).map Record.path =
      (((records.filter fun record => !record.directory).map Record.reread).filter fun record =>
        mode.Wants excluded record).map Record.path := by
  have path : Record.path ∘ Record.unprobed = Record.path ∘ Record.reread := rfl
  rw [List.filter_map, List.filter_map, List.map_map, List.map_map, List.filter_filter, path]
  refine congrArg (List.map _) (List.filter_congr fun record member => ?_)
  simp only [Function.comp_apply]
  rw [FindMode.finds_unprobed, Bool.eq_iff_iff, FindMode.finds_iff, Bool.and_eq_true,
    decide_eq_true_iff, FindMode.wants_reread, Bool.not_eq_true']
  exact ⟨fun wanted => ⟨wanted, wanted.noDirectory (coherent record member)⟩, And.left⟩

/-- Paths that each end with a NUL are told apart. -/
theorem splitAt_found {options : FindOptions} (nul : options.terminator = .nul) (world : World)
    (exclusion : Exclusion) (roots : List String) :
    splitAt '\x00' (findScripts world exclusion options roots).out.toList =
      (((survey world exclusion {} roots).found options).map Record.path).map String.toList ++
        [[]] := by
  have out : (findScripts world exclusion options roots).out = String.join
      (((survey world exclusion {} roots).found options).map fun record =>
        record.path ++ options.terminator.text) := rfl
  generalize located : (survey world exclusion {} roots).found options = found at out ⊢
  have free : ∀ text ∈ found.map Record.path, '\x00' ∉ text.toList := by
    intro text member
    obtain ⟨record, known, rfl⟩ := List.mem_map.mp member
    rw [← located] at known
    exact nulFree_iff.mp (mem_records (List.mem_of_mem_filter known)).2
  have text : options.terminator.text = .ofList ['\x00'] := by
    rw [nul]
    rfl
  rw [out, text, ← splitAt_join free, List.map_map]
  rfl

theorem findScripts_picks {world : World}
    (calm : ∀ path, world.faults .tail path = none ∧ world.faults .scan path = none)
    {options : FindOptions} (nul : options.terminator = .nul) (exclusion : Exclusion)
    (probes : Probes) (layout : Layout) (roots : List String) :
    Picks (findScripts world exclusion options roots).out
      (dumpRecords world exclusion probes layout roots).out layout options.mode options.excluded := by
  refine ⟨(survey world exclusion probes roots).written.map Record.reread, ?_, ?_⟩
  · refine decodesTo_written (fun record member => ?_) layout
    exact (mem_records (List.mem_of_mem_filter member)).1
  · have coherent (record : Record)
        (member : record ∈ (survey world exclusion probes roots).records) := (mem_records member).1
    have same := paths_finds_unprobed coherent options.mode options.excluded
    rw [← records_unprobed calm exclusion probes roots] at same
    have paths := congrArg (fun paths => paths.map String.toList ++ [[]]) same
    rw [splitAt_found nul]
    simp only [List.map_map] at paths ⊢
    exact paths

theorem findScripts_result {world : World}
    (calm : ∀ path, world.faults .tail path = none ∧ world.faults .scan path = none)
    (options : FindOptions) (exclusion : Exclusion) (probes : Probes) (layout : Layout)
    (roots : List String) :
    (findScripts world exclusion options roots).result =
      (dumpRecords world exclusion probes layout roots).result := by
  have broken : (survey world exclusion {} roots).broken =
      (survey world exclusion probes roots).broken := by
    rw [survey_unprobed calm exclusion probes roots]
  simp only [findScripts, dumpRecords, Survey.report, Survey.settle, broken,
    anyFailed_unprobed calm exclusion probes roots]

/-- The layout that the settings of a dump ask for. -/
def Settings.layout (settings : Settings) : Layout :=
  if settings.has .pretty then .indented else .compact

/-- Searching with a NUL behind each path and dumping the same trees agree, whatever probes the dump
makes on request, as long as those do not fail: as tasks under any exclusion, and as commands. -/
theorem find_picks_dumped [PatternLibrary] {world : World}
    (calm : ∀ path, world.faults .tail path = none ∧ world.faults .scan path = none) :
    (∀ (exclusion : Exclusion) (options : FindOptions) (probes : Probes) (layout : Layout)
        (roots : List String), options.terminator = .nul →
      let found := findScripts world exclusion options roots
      let dumped := dumpRecords world exclusion probes layout roots
      Picks found.out dumped.out layout options.mode options.excluded ∧
        found.result = dumped.result) ∧
    ∀ (search dump : Invocation) (sought dumped : Arguments) (excluded : List String),
      search.call = some (.find, sought) → dump.call = some (.dump, dumped) →
      sought.roots = dumped.roots →
      exclusionFor world.disk sought.settings = exclusionFor world.disk dumped.settings →
      excludedNames sought.settings = .ok excluded → sought.settings.has .print0 = true →
      Picks (search.run world).out (dump.run world).out dumped.settings.layout
          (findOptions sought.settings excluded).mode excluded ∧
        (search.run world).ending = (dump.run world).ending := by
  refine ⟨fun exclusion options probes layout roots nul =>
    ⟨findScripts_picks calm nul exclusion probes layout roots,
      findScripts_result calm options exclusion probes layout roots⟩, ?_⟩
  intro search dump sought dumped excluded searches dumps sameRoots sameIgnore names print0
  cases excludes : exclusionFor world.disk dumped.settings with
  | error breakdown =>
    obtain ⟨searchOut, searchEnding⟩ := run_unexcluded searches (sameIgnore.trans excludes)
    obtain ⟨dumpOut, dumpEnding⟩ := run_unexcluded dumps excludes
    rw [searchOut, dumpOut]
    exact ⟨⟨[], ⟨[], rfl, fun _ => rfl, fun _ _ => rfl⟩, rfl⟩, searchEnding.trans dumpEnding.symm⟩
  | ok exclusion =>
    obtain ⟨searchOut, searchEnding⟩ := run_performed searches (sameIgnore.trans excludes)
    obtain ⟨dumpOut, dumpEnding⟩ := run_performed dumps excludes
    let options := findOptions sought.settings excluded
    let probes : Probes := ⟨dumped.settings.has .eol, dumped.settings.has .cr⟩
    have nul : options.terminator = .nul := if_pos print0
    have searched : Command.find.perform world exclusion sought.settings sought.roots =
        .ok (findScripts world exclusion options dumped.roots, true, world.disk) := by
      rw [Command.perform, names, sameRoots]
      rfl
    have result := findScripts_result calm options exclusion probes dumped.settings.layout
      dumped.roots
    rw [searchOut, searchEnding, dumpOut, dumpEnding, searched]
    refine ⟨findScripts_picks calm nul exclusion probes dumped.settings.layout dumped.roots, ?_⟩
    rw [Performed.ending, result]
    rfl

theorem find_picks_dumped_cabinet :
    let sought : Arguments :=
      { settings := [(.print0, none), (.sh, none), (.excludeInterpreters, some "ash,")] }
    let dumped : Arguments := { settings := [(.eol, none), (.cr, none)] }
    let searched := Invocation.run cabinet ⟨[], some (.find, sought), []⟩
    let written := Invocation.run cabinet ⟨[], some (.dump, dumped), []⟩
    (∀ path, cabinet.faults .tail path = none ∧ cabinet.faults .scan path = none) ∧
      Picks searched.out written.out .compact .plainSh ["ash", ""] ∧
      searched.ending = written.ending := by
  intro sought dumped searched written
  have calm (path : String) : cabinet.faults .tail path = none ∧ cabinet.faults .scan path = none :=
    ⟨rfl, rfl⟩
  have pieces : commaList "ash," = ["ash", ""] := by decide
  have names : excludedNames sought.settings = .ok ["ash", ""] := congrArg Except.ok pieces
  exact ⟨calm, (find_picks_dumped calm).2 ⟨[], some (.find, sought), []⟩
    ⟨[], some (.dump, dumped), []⟩ sought dumped ["ash", ""] rfl rfl rfl rfl names rfl⟩

end ShellSurvey
