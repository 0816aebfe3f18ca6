import ShellSurvey.Console
import ShellSurvey.Finding.Folded
import ShellSurvey.Rule.Content
import ShellSurvey.Rule.Property
import ShellSurvey.Rule.Validity

namespace ShellSurvey

/-- A template is filled in, with whatever result. -/
def Filled (result : Except TemplateFlaw (List Char)) : Prop := ∃ text, result = .ok text

theorem exceptBind_ok {ε α β : Type} {first : Except ε α} {next : α → Except ε β} {result : β}
    (done : (first >>= next) = .ok result) : ∃ value, first = .ok value ∧ next value = .ok result := by
  cases first with
  | error failure => cases done
  | ok value => exact ⟨value, rfl, done⟩

theorem not_filled_error (flaw : TemplateFlaw) : ¬ Filled (.error flaw) := by
  rintro ⟨_, filled⟩
  cases filled

theorem filled_map {result : Except TemplateFlaw (List Char)} {f : List Char → List Char} :
    Filled (result.map f) ↔ Filled result := by
  cases result <;> simp [Filled, Except.map]

theorem lookup_isSome_of_names {values others : Members}
    (same : values.map Prod.fst = others.map Prod.fst) (name : String) :
    (values.lookup name).isSome = (others.lookup name).isSome := by
  induction values generalizing others with
  | nil =>
    cases others with
    | nil => rfl
    | cons _ _ => cases same
  | cons value rest ih =>
    cases others with
    | nil => cases same
    | cons other more =>
      obtain ⟨first, later⟩ := List.cons.inj same
      have known : value.1 = other.1 := first
      rw [List.lookup_cons, List.lookup_cons, known]
      cases name == other.1 with
      | true => rfl
      | false => exact ih later

theorem fieldText_of_names {values others : Members}
    (same : values.map Prod.fst = others.map Prod.fst) {name : List Char}
    (filled : Filled (fieldText values name)) : Filled (fieldText others name) := by
  unfold fieldText at filled ⊢
  cases position : positionFrom 0 name with
  | error flaw => rw [position] at filled; exact absurd filled (not_filled_error _)
  | ok asked =>
    rw [position] at filled
    cases asked with
    | some index => exact absurd filled (not_filled_error _)
    | none =>
      have known := lookup_isSome_of_names same (.ofList name)
      simp only [bind, Except.bind] at filled ⊢
      cases here : values.lookup (.ofList name) with
      | none => rw [here] at filled; exact absurd filled (not_filled_error _)
      | some value =>
        rw [here, Option.isSome_some] at known
        obtain ⟨other, there⟩ := Option.isSome_iff_exists.mp known.symm
        rw [there]
        exact ⟨_, rfl⟩

/-- Whether a template can be filled in depends on the names of the values alone. -/
theorem fillWithin_of_names {values others : Members}
    (same : values.map Prod.fst = others.map Prod.fst) {fuel : Nat} {cs : List Char}
    (filled : Filled (fillWithin values fuel cs)) : Filled (fillWithin others fuel cs) := by
  fun_induction fillWithin values fuel cs with
  | case1 fuel => cases fuel <;> exact ⟨_, rfl⟩
  | case2 cs noText => cases cs <;> exact ⟨_, rfl⟩
  | case3 => exact absurd filled (not_filled_error _)
  | case4 fuel after ih =>
    have later := ih (filled_map.mp filled)
    simp only [fillWithin, if_true]
    exact filled_map.mpr later
  | case5 fuel next after single ends =>
    simp only [ends] at filled
    exact absurd filled (not_filled_error _)
  | case6 fuel next after single more ends =>
    simp only [ends, if_true] at filled
    exact absurd filled (not_filled_error _)
  | case7 fuel next after single stop more other ends ih =>
    simp only [ends, if_neg other] at filled
    obtain ⟨text, filled⟩ := filled
    obtain ⟨value, valued, filled⟩ := exceptBind_ok filled
    obtain ⟨rest, later, _⟩ := exceptBind_ok filled
    obtain ⟨value, valued⟩ := fieldText_of_names same ⟨value, valued⟩
    obtain ⟨rest, later⟩ := ih ⟨rest, later⟩
    simp only [fillWithin, if_true, if_neg single, ends, if_neg other, valued, later]
    exact ⟨_, rfl⟩
  | case8 fuel after noOpening ih =>
    have later := ih (filled_map.mp filled)
    simp only [fillWithin, if_neg noOpening, if_true]
    exact filled_map.mpr later
  | case9 => exact absurd filled (not_filled_error _)
  | case10 fuel c rest noOpening noClosing ih =>
    have later := ih (filled_map.mp filled)
    simp only [fillWithin, if_neg noOpening, if_neg noClosing]
    exact filled_map.mpr later
/-- A kind of finding whose message asks for values of these names at most. -/
def FindingKind.AsksFor (kind : FindingKind) (names : List String) : Prop :=
  (fillTemplate (names.map (·, .null)) kind.template).toOption.isSome = true

/-- What a message asks for is evaluated on its characters, which a text does not give at once. -/
theorem FindingKind.AsksFor.ofList {kind : FindingKind} {cs : List Char} {names : List String}
    (template : kind.template = String.ofList cs)
    (filled : (fillWithin (names.map (·, .null)) cs.length cs).toOption.isSome = true) :
    kind.AsksFor names := by
  have same : kind.template.toList = cs := by rw [template, String.toList_ofList]
  unfold AsksFor fillTemplate
  rw [same]
  dsimp only
  cases result : fillWithin (names.map (·, .null)) cs.length cs with
  | ok text => rfl
  | error flaw => rw [result] at filled; cases filled

theorem FindingKind.AsksFor.filled {kind : FindingKind} {names : List String}
    (asks : kind.AsksFor names) {values : Members} (named : values.map Prod.fst = names) :
    ∃ text, fillTemplate values kind.template = .ok text := by
  have same : (names.map fun name => (name, Json.null)).map Prod.fst = values.map Prod.fst := by
    rw [named, List.map_map]
    exact List.map_id names
  have blank : Filled (fillWithin (names.map (·, .null)) kind.template.toList.length
      kind.template.toList) := by
    unfold AsksFor fillTemplate at asks
    dsimp only at asks
    cases result : fillWithin (names.map (·, .null)) kind.template.toList.length
        kind.template.toList with
    | ok text => exact ⟨text, rfl⟩
    | error flaw => rw [result] at asks; cases asks
  obtain ⟨text, filled⟩ := fillWithin_of_names same blank
  exact ⟨.ofList text, by rw [fillTemplate, filled]; rfl⟩

/-- A finding in a file that can be reported. -/
structure Finding.ReportsIn (path : String) (finding : Finding) : Prop where
  place : ∃ lines, finding.location = some ⟨path, lines⟩
  filled : ∃ text, fillTemplate (finding.values.getD []) finding.kind.template = .ok text

section

variable {kind : FindingKind} {path : String}

theorem FindingKind.AsksFor.inFile (asks : kind.AsksFor []) : (kind.inFile path).ReportsIn path :=
  ⟨⟨[], rfl⟩, asks.filled rfl⟩

theorem FindingKind.AsksFor.atLine (asks : kind.AsksFor []) (line : Nat) :
    (kind.atLine path line).ReportsIn path :=
  ⟨⟨[(line : Int)], rfl⟩, asks.filled rfl⟩

theorem FindingKind.AsksFor.inFileWith {names : List String} (asks : kind.AsksFor names)
    {values : Members} (named : values.map Prod.fst = names) :
    (kind.inFileWith values path).ReportsIn path :=
  ⟨⟨[], rfl⟩, asks.filled named⟩

end

/-- Findings in one file that can be reported. -/
def ReportIn (path : String) (findings : List Finding) : Prop :=
  ∀ finding ∈ findings, finding.ReportsIn path

theorem ReportIn.nil (path : String) : ReportIn path [] := nofun

theorem ReportIn.single {path : String} {finding : Finding} (here : finding.ReportsIn path) :
    ReportIn path [finding] :=
  List.forall_mem_singleton.mpr here

theorem ReportIn.append {path : String} {findings more : List Finding}
    (first : ReportIn path findings) (second : ReportIn path more) :
    ReportIn path (findings ++ more) :=
  List.forall_mem_append.mpr ⟨first, second⟩

theorem FindingKind.AsksFor.reportIf {kind : FindingKind} (asks : kind.AsksFor [])
    (condition : Bool) (path : String) : ReportIn path (reportIf condition kind path) := by
  unfold ShellSurvey.reportIf
  split
  · exact .single asks.inFile
  · exact .nil path

theorem Finding.ReportsIn.absorb {path : String} {earlier later : Finding}
    (first : earlier.ReportsIn path) (second : later.ReportsIn path) :
    ∃ sum, earlier.absorb later = .ok sum ∧ sum.ReportsIn path := by
  obtain ⟨lines, place⟩ := first.place
  obtain ⟨more, otherPlace⟩ := second.place
  refine ⟨{ earlier with location := some ⟨path, sortLines (lines ++ more)⟩ }, ?_, ⟨_, rfl⟩,
    first.filled⟩
  simp [Finding.absorb, Finding.locate, place, otherPlace, Location.add, Except.map]

/-- Findings of one file are folded without a clash. -/
theorem appendFindings_reportIn {path : String} {findings more : List Finding}
    (first : ReportIn path findings) (second : ReportIn path more) :
    (appendFindings findings more).2 = none ∧ ReportIn path (appendFindings findings more).1 := by
  have step {findings : List Finding} {finding : Finding} (first : ReportIn path findings)
      (here : finding.ReportsIn path) :
      ∃ sum, appendFinding findings finding = .ok sum ∧ ReportIn path sum := by
    unfold appendFinding
    cases last : findings.getLast? with
    | none => exact ⟨[finding], rfl, .single here⟩
    | some known =>
      have knownReports := first known (List.mem_of_getLast? last)
      obtain ⟨sum, absorbed, sumReports⟩ := knownReports.absorb here
      cases repeated : known.repeats finding with
      | false => exact ⟨findings ++ [finding], by simp [repeated], first.append (.single here)⟩
      | true =>
        refine ⟨findings.dropLast ++ [sum], by simp [repeated, absorbed, Except.map], ?_⟩
        exact ReportIn.append (fun other member => first other (List.dropLast_subset _ member))
          (.single sumReports)
  induction more generalizing findings with
  | nil => exact ⟨rfl, first⟩
  | cons finding rest ih =>
    obtain ⟨here, later⟩ := List.forall_mem_cons.mp second
    obtain ⟨sum, appended, sumReports⟩ := step first here
    rw [appendFindings, appended]
    exact ih sumReports later

end ShellSurvey
