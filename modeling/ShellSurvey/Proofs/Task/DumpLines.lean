import ShellSurvey.Proofs.Task.FindDump

namespace ShellSurvey

/-- A text in ASCII with each record on a line of its own, from which it is read back, whatever depth of
nesting its reader admits. -/
structure HoldsLines (out : String) (records : List Record) : Prop where
  ascii : ∀ c ∈ out.toList, c.toNat < 128
  lines : ∃ lines : List String, splitAt '\n' out.toList = lines.map String.toList ++ [[]] ∧
    ∀ limit, 2 ≤ limit →
      lines.map (LooseRecord.parse limit) = records.map fun record => .ok record.loosen

/-- A record on a line of its own is written in ASCII. -/
theorem Record.ascii_line {record : Record} {c : Char}
    (member : c ∈ (record.jsonText .compact ++ "\n").toList) : c.toNat < 128 := by
  rw [String.toList_append, List.mem_append] at member
  rcases member with written | ended
  · rcases Json.admitsAll_text .compact record.tidy_toJson c written with printable | ⟨indented, _⟩
    · have high := printable.2
      omega
    · cases indented
  · have lineFeed : c = '\n' := by simpa using ended
    rw [lineFeed]
    decide

theorem holdsLines_written {records : List Record}
    (coherent : ∀ record ∈ records, record.Coherent)
    (restorable : ∀ record ∈ records, record.reread = record) :
    HoldsLines (String.join (records.map fun record => record.jsonText .compact ++ "\n")) records := by
  constructor
  · intro c member
    rw [String.toList_join, List.mem_flatMap] at member
    obtain ⟨line, known, inside⟩ := member
    obtain ⟨record, _, rfl⟩ := List.mem_map.mp known
    exact Record.ascii_line inside
  · have same : records.map Record.reread = records :=
      (List.map_congr_left restorable).trans (List.map_id records)
    obtain ⟨lines, _, split, parsed⟩ := decodesTo_written coherent .compact
    rw [same] at parsed
    exact ⟨lines, split rfl, parsed⟩

/-- Among the records of a survey there are no directories to leave out. -/
theorem Survey.written_eq_records {world : World} (named : world.disk.Names EntryName)
    (exclusion : Exclusion) (probes : Probes) (roots : List String) :
    (survey world exclusion probes roots).written =
      (survey world exclusion probes roots).records := by
  refine List.filter_eq_self.mpr fun record member => ?_
  rw [directory_of_mem_records named member]
  rfl

theorem dumpRecords_holdsLines {world : World} (named : world.disk.Names EntryName)
    (exclusion : Exclusion) (probes : Probes) (roots : List String) :
    HoldsLines (dumpRecords world exclusion probes .compact roots).out
      (survey world exclusion probes roots).records := by
  have out : (dumpRecords world exclusion probes .compact roots).out =
      String.join ((survey world exclusion probes roots).written.map fun record =>
        record.jsonText .compact ++ "\n") := rfl
  rw [out, Survey.written_eq_records named]
  exact holdsLines_written (fun record member => (mem_records member).1)
    fun record member => reread_of_mem_records member

/-- On a disk whose directories list names that entries can have, a dump that is not laid out over
several lines holds the surveyed records line by line, as a task and as a command. -/
theorem dump_holds_lines [PatternLibrary] {world : World} (named : world.disk.Names EntryName) :
    (∀ (exclusion : Exclusion) (probes : Probes) (roots : List String),
      HoldsLines (dumpRecords world exclusion probes .compact roots).out
        (survey world exclusion probes roots).records) ∧
    ∀ (dump : Invocation) (arguments : Arguments) (exclusion : Exclusion),
      dump.call = some (.dump, arguments) → arguments.settings.has .pretty = false →
      exclusionFor world.disk arguments.settings = .ok exclusion →
      HoldsLines (dump.run world).out
        (survey world exclusion ⟨arguments.settings.has .eol, arguments.settings.has .cr⟩
          arguments.roots).records := by
  refine ⟨dumpRecords_holdsLines named, ?_⟩
  intro dump arguments exclusion call plain excludes
  obtain ⟨out, _⟩ := run_performed call excludes
  let probes : Probes := ⟨arguments.settings.has .eol, arguments.settings.has .cr⟩
  have performed : Command.dump.perform world exclusion arguments.settings arguments.roots =
      .ok (dumpRecords world exclusion probes .compact arguments.roots, true, world.disk) := by
    simp only [Command.perform, plain, Bool.false_eq_true, if_false]
    rfl
  rw [out, performed]
  exact dumpRecords_holdsLines named exclusion probes arguments.roots

theorem dump_holds_lines_cabinet :
    let arguments : Arguments := { settings := [(.eol, none)] }
    cabinet.disk.Names EntryName ∧
      HoldsLines (Invocation.run cabinet ⟨[], some (.dump, arguments), []⟩).out
        (survey cabinet .standard { finalEol := true } arguments.roots).records := by
  intro arguments
  have named : cabinet.disk.Names EntryName := Node.names_of_chains (by decide)
  exact ⟨named, (dump_holds_lines named).2 ⟨[], some (.dump, arguments), []⟩ arguments .standard rfl
    rfl rfl⟩

end ShellSurvey
