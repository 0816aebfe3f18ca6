import ShellSurvey.Proofs.Record.RoundTrip

namespace ShellSurvey

/-- What counts as nothing, and any collection, is read as flags. -/
def Json.IsFlags (value : Json) : Prop :=
  value.present = false ∨ (∃ text, value = .str text) ∨ (∃ elements, value = .arr elements) ∨
    ∃ members, value = .obj members

def Json.IsLineEnding (value : Json) : Prop := ∃ ending : LineEnding, value = .str ending.text

/-- Numbers equal to a truth value count as it. -/
def Json.IsFinalEol (value : Json) : Prop :=
  value = .null ∨ ∃ known : Bool, value.same (.bool known) = true

/-- The members of an object have nothing against being read as a record. -/
structure Acceptable (members : Members) : Prop where
  names : ∀ member ∈ members, member.1 ∈ Field.names
  flags : ∀ value ∈ members.lookup Field.interpreterFlags.name, value.IsFlags
  lineEnding : ∀ value ∈ members.lookup Field.lineEnding.name, value.IsLineEnding
  finalEol : ∀ value ∈ members.lookup Field.finalEol.name, value.IsFinalEol

/-- Why the members of an object are no record: the first of the four that fails. -/
inductive Refused (members : Members) : RecordFlaw → Prop
  | names (unknown : ∃ member ∈ members, member.1 ∉ Field.names) :
      Refused members (.unknownFields (unknownNames (members.map Prod.fst)))
  | flags {value : Json} (names : ∀ member ∈ members, member.1 ∈ Field.names)
      (given : members.lookup Field.interpreterFlags.name = some value) (bad : ¬ value.IsFlags) :
      Refused members (.notACollection value.kindName)
  | lineEnding {value : Json} (names : ∀ member ∈ members, member.1 ∈ Field.names)
      (flags : ∀ value ∈ members.lookup Field.interpreterFlags.name, value.IsFlags)
      (given : members.lookup Field.lineEnding.name = some value) (bad : ¬ value.IsLineEnding) :
      Refused members (.badLineEnding value)
  | finalEol {value : Json} (names : ∀ member ∈ members, member.1 ∈ Field.names)
      (flags : ∀ value ∈ members.lookup Field.interpreterFlags.name, value.IsFlags)
      (lineEnding : ∀ value ∈ members.lookup Field.lineEnding.name, value.IsLineEnding)
      (given : members.lookup Field.finalEol.name = some value) (bad : ¬ value.IsFinalEol) :
      Refused members (.badFinalEol value)

theorem fine_or_bad (given : Option Json) (good : Json → Prop) :
    (∀ value ∈ given, good value) ∨ ∃ value, given = some value ∧ ¬ good value := by
  cases given with
  | none => simp
  | some value =>
    by_cases fine : good value
    · exact Or.inl fun _ known => Option.some.inj known ▸ fine
    · exact Or.inr ⟨value, rfl, fine⟩

theorem Acceptable.or_refused (members : Members) :
    Acceptable members ∨ ∃ flaw, Refused members flaw := by
  by_cases unknown : ∃ member ∈ members, member.1 ∉ Field.names
  · exact Or.inr ⟨_, .names unknown⟩
  have names : ∀ member ∈ members, member.1 ∈ Field.names := fun member known =>
    Decidable.byContradiction fun strange => unknown ⟨member, known, strange⟩
  rcases fine_or_bad (members.lookup Field.interpreterFlags.name) Json.IsFlags with
    flags | ⟨value, given, bad⟩
  · rcases fine_or_bad (members.lookup Field.lineEnding.name) Json.IsLineEnding with
      lineEnding | ⟨value, given, bad⟩
    · rcases fine_or_bad (members.lookup Field.finalEol.name) Json.IsFinalEol with
        finalEol | ⟨value, given, bad⟩
      · exact Or.inl ⟨names, flags, lineEnding, finalEol⟩
      · exact Or.inr ⟨_, .finalEol names flags lineEnding given bad⟩
    · exact Or.inr ⟨_, .lineEnding names flags given bad⟩
  · exact Or.inr ⟨_, .flags names given bad⟩

section

variable {α : Type}

/-- A reader takes the good values, and refuses each other one with a flaw of its own. -/
structure Checks (read : Json → Except RecordFlaw α) (good : Json → Prop)
    (refusal : Json → RecordFlaw) : Prop where
  takes : ∀ {value}, good value → ∃ result, read value = .ok result
  refuses : ∀ {value}, ¬ good value → read value = .error (refusal value)

/-- The value of a field as a reader takes it, or what stands for a field that is not there. -/
def readField (members : Members) (field : Field) (read : Json → Except RecordFlaw α) (absent : α) :
    Except RecordFlaw α :=
  match members.lookup field.name with
  | some value => read value
  | none => .ok absent

variable {read : Json → Except RecordFlaw α} {good : Json → Prop} {refusal : Json → RecordFlaw}
  {members : Members} {field : Field} {value : Json}

theorem Checks.readField_ok (checks : Checks read good refusal) (absent : α)
    (fine : ∀ value ∈ members.lookup field.name, good value) :
    ∃ result, readField members field read absent = .ok result := by
  unfold readField
  cases given : members.lookup field.name with
  | none => exact ⟨absent, rfl⟩
  | some value => exact checks.takes (fine value given)

theorem Checks.readField_error (checks : Checks read good refusal) (absent : α)
    (given : members.lookup field.name = some value) (bad : ¬ good value) :
    readField members field read absent = .error (refusal value) := by
  rw [readField, given]
  exact checks.refuses bad

end

theorem checks_flagsOfJson :
    Checks flagsOfJson Json.IsFlags fun value => .notACollection value.kindName where
  takes {value} good := by
    unfold flagsOfJson
    rcases good with nothing | ⟨text, rfl⟩ | ⟨elements, rfl⟩ | ⟨members, rfl⟩
    · rw [nothing]
      exact ⟨[], rfl⟩
    all_goals
      split
      · exact ⟨_, rfl⟩
      · exact ⟨[], rfl⟩
  refuses {value} bad := by
    simp only [Json.IsFlags, not_or, not_exists, Bool.not_eq_false] at bad
    obtain ⟨present, noText, noArray, noObject⟩ := bad
    unfold flagsOfJson
    rw [if_pos present]
    split
    · next elements => exact absurd rfl (noArray elements)
    · next text => exact absurd rfl (noText text)
    · next members => exact absurd rfl (noObject members)
    · rfl

theorem LineEnding.eq_text_of_ofText? {text : String} {ending : LineEnding}
    (known : LineEnding.ofText? text = some ending) : ending.text = text := by
  simpa using List.find?_some known

theorem LineEnding.checks_ofJson : Checks LineEnding.ofJson Json.IsLineEnding .badLineEnding where
  takes {value} good := by
    obtain ⟨ending, rfl⟩ := good
    exact ⟨ending, LineEnding.ofJson_text ending⟩
  refuses {value} bad := by
    unfold LineEnding.ofJson
    split
    · next text =>
      cases known : LineEnding.ofText? text with
      | none => rfl
      | some ending => exact absurd ⟨ending, by rw [eq_text_of_ofText? known]⟩ bad
    · rfl

theorem Json.same_bool (value : Json) (known : Bool) :
    value.same (.bool known) = sameNumber value (.bool known) := by
  cases value <;> rfl

theorem FinalEol.checks_ofJson : Checks FinalEol.ofJson Json.IsFinalEol .badFinalEol where
  takes {value} good := by
    rcases good with rfl | ⟨known, same⟩
    · exact ⟨.notComputed, rfl⟩
    · rw [Json.same_bool] at same
      unfold FinalEol.ofJson
      split
      · exact ⟨.notComputed, rfl⟩
      · cases known <;> rw [same] <;> simp
        split <;> simp
  refuses {value} bad := by
    simp only [Json.IsFinalEol, not_or, not_exists, Json.same_bool, Bool.not_eq_true] at bad
    obtain ⟨given, unequal⟩ := bad
    unfold FinalEol.ofJson
    split
    · exact absurd rfl given
    · simp [unequal]

theorem mem_insertName {name known : String} {names : List String} :
    known ∈ insertName name names ↔ known = name ∨ known ∈ names := by
  induction names with
  | nil => simp [insertName]
  | cons other rest ih =>
    rw [insertName]
    split
    · next same => simp [same]
    split
    · exact List.mem_cons
    · rw [List.mem_cons, ih, List.mem_cons, or_left_comm]

theorem mem_unknownNames {name : String} {names : List String} :
    name ∈ unknownNames names ↔ name ∈ names ∧ name ∉ Field.names := by
  have gathered (some : List String) : name ∈ some.foldr insertName [] ↔ name ∈ some := by
    induction some with
    | nil => rfl
    | cons other rest ih => rw [List.foldr_cons, mem_insertName, ih, List.mem_cons]
  rw [unknownNames, gathered, List.mem_filter, decide_eq_true_eq]

theorem checkNames_ok {members : Members} (names : ∀ member ∈ members, member.1 ∈ Field.names) :
    checkNames (members.map Prod.fst) = .ok () := by
  have none : unknownNames (members.map Prod.fst) = [] := by
    rw [List.eq_nil_iff_forall_not_mem]
    intro name unknown
    obtain ⟨known, strange⟩ := mem_unknownNames.mp unknown
    obtain ⟨member, there, rfl⟩ := List.mem_map.mp known
    exact strange (names member there)
  rw [checkNames, none]

theorem checkNames_error {members : Members}
    (unknown : ∃ member ∈ members, member.1 ∉ Field.names) :
    checkNames (members.map Prod.fst) =
      .error (.unknownFields (unknownNames (members.map Prod.fst))) := by
  obtain ⟨member, there, strange⟩ := unknown
  have found : member.1 ∈ unknownNames (members.map Prod.fst) :=
    mem_unknownNames.mpr ⟨List.mem_map_of_mem there, strange⟩
  unfold checkNames
  split
  · next none =>
    rw [none] at found
    cases found
  · rfl

/-- The record of an object whose checked fields were read. -/
def LooseRecord.assemble (members : Members) (flags : List Json) (ending : LineEnding)
    (eol : FinalEol) : LooseRecord where
  plain field := (members.lookup field.name).getD field.default
  interpreter := ((members.lookup Field.interpreter.name).map LooseInterpreter.ofJson).getD .unresolved
  interpreterFlags := flags
  lineEnding := ending
  finalEol := eol

theorem LooseRecord.decode_obj (members : Members) :
    LooseRecord.decode (.obj members) = do
      checkNames (members.map Prod.fst)
      let flags ← readField members .interpreterFlags flagsOfJson []
      let ending ← readField members .lineEnding LineEnding.ofJson .none
      let eol ← readField members .finalEol FinalEol.ofJson .notComputed
      return .assemble members flags ending eol := by
  rw [decode, Json.fields]
  cases checkNames (members.map Prod.fst) with
  | error flaw => rfl
  | ok known =>
    simp only [Except.map, bind, Except.bind, ofMembers, readField, assemble]
    cases members.lookup Field.interpreter.name <;>
      cases members.lookup Field.interpreterFlags.name <;>
      cases members.lookup Field.lineEnding.name <;> cases members.lookup Field.finalEol.name <;> rfl

theorem Acceptable.assembles {members : Members} (fine : Acceptable members) :
    ∃ flags ending eol, readField members .interpreterFlags flagsOfJson [] = .ok flags ∧
      LooseRecord.decode (.obj members) = .ok (.assemble members flags ending eol) := by
  obtain ⟨flags, readFlags⟩ := checks_flagsOfJson.readField_ok [] fine.flags
  obtain ⟨ending, readEnding⟩ := LineEnding.checks_ofJson.readField_ok .none fine.lineEnding
  obtain ⟨eol, readEol⟩ := FinalEol.checks_ofJson.readField_ok .notComputed fine.finalEol
  refine ⟨flags, ending, eol, readFlags, ?_⟩
  rw [LooseRecord.decode_obj, checkNames_ok fine.names, readFlags, readEnding, readEol]
  rfl

theorem Acceptable.decode {members : Members} (fine : Acceptable members) :
    ∃ record, LooseRecord.decode (.obj members) = .ok record := by
  obtain ⟨_, _, _, _, decoded⟩ := fine.assembles
  exact ⟨_, decoded⟩

theorem Refused.decode {members : Members} {flaw : RecordFlaw} (refused : Refused members flaw) :
    LooseRecord.decode (.obj members) = .error flaw := by
  rw [LooseRecord.decode_obj]
  cases refused with
  | names unknown => rw [checkNames_error unknown]; rfl
  | flags names given bad =>
    rw [checkNames_ok names, checks_flagsOfJson.readField_error [] given bad]
    rfl
  | lineEnding names flags given bad =>
    obtain ⟨_, readFlags⟩ := checks_flagsOfJson.readField_ok [] flags
    rw [checkNames_ok names, readFlags, LineEnding.checks_ofJson.readField_error .none given bad]
    rfl
  | finalEol names flags lineEnding given bad =>
    obtain ⟨_, readFlags⟩ := checks_flagsOfJson.readField_ok [] flags
    obtain ⟨_, readEnding⟩ := LineEnding.checks_ofJson.readField_ok .none lineEnding
    rw [checkNames_ok names, readFlags, readEnding,
      FinalEol.checks_ofJson.readField_error .notComputed given bad]
    rfl

theorem LooseRecord.decodes_iff (members : Members) :
    (∃ record, LooseRecord.decode (.obj members) = .ok record) ↔ Acceptable members := by
  -- Every object is acceptable or refused, so that what is read was not refused.
  refine ⟨fun ⟨record, decoded⟩ => ?_, Acceptable.decode⟩
  rcases Acceptable.or_refused members with fine | ⟨flaw, refused⟩
  · exact fine
  · rw [refused.decode] at decoded
    cases decoded

theorem LooseRecord.decode_error_iff (members : Members) (flaw : RecordFlaw) :
    LooseRecord.decode (.obj members) = .error flaw ↔ Refused members flaw := by
  refine ⟨fun failed => ?_, Refused.decode⟩
  rcases Acceptable.or_refused members with fine | ⟨other, refused⟩
  · obtain ⟨record, decoded⟩ := fine.decode
    rw [decoded] at failed
    cases failed
  · rw [refused.decode] at failed
    cases failed
    exact refused

/-- Whatever is read as a record is put together from its members and the flags in them. -/
theorem LooseRecord.assemble_of_decode {members : Members} {record : LooseRecord}
    (decoded : LooseRecord.decode (.obj members) = .ok record) :
    ∃ flags ending eol, readField members .interpreterFlags flagsOfJson [] = .ok flags ∧
      record = .assemble members flags ending eol := by
  have fine := (decodes_iff members).mp ⟨record, decoded⟩
  obtain ⟨flags, ending, eol, read, assembled⟩ := fine.assembles
  rw [assembled] at decoded
  exact ⟨flags, ending, eol, read, (Except.ok.inj decoded).symm⟩

end ShellSurvey
