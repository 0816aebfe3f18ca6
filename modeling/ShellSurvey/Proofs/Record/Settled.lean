import ShellSurvey.Proofs.Json.Equality
import ShellSurvey.Proofs.Record.Decoding

namespace ShellSurvey

theorem sameElements_refl {elements : List Json}
    (each : ∀ element ∈ elements, element.same element = true) :
    sameElements elements elements = true := by
  induction elements with
  | nil => rfl
  | cons head rest ih =>
    obtain ⟨here, later⟩ := List.forall_mem_cons.mp each
    rw [sameElements, here, ih later, Bool.and_self]

theorem sameMembers_refl {members : Members} (distinct : (members.map Prod.fst).Nodup)
    (each : ∀ member ∈ members, member.2.same member.2 = true) :
    sameMembers members members = true :=
  (sameMembers_iff members members).mpr fun member known =>
    ⟨member.2, lookup_of_mem distinct known, each member known⟩

theorem elementsTidy_iff {elements : List Json} :
    ElementsTidy elements ↔ ∀ element ∈ elements, element.Tidy := by
  induction elements with
  | nil => simp [ElementsTidy]
  | cons head rest ih => rw [ElementsTidy, ih, List.forall_mem_cons]

/-- A value without floating point numbers equals itself. -/
theorem Json.Tidy.same_refl {value : Json} (tidy : value.Tidy) : value.same value = true := by
  induction value using Json.inductionOn with
  | scalar value noArray noObject =>
    cases value with
    | float number => exact absurd tidy id
    | arr elements => exact absurd rfl (noArray elements)
    | obj members => exact absurd rfl (noObject members)
    | null => rfl
    | bool known => simp [same, sameNumber, integer?]
    | int number => simp [same, sameNumber, integer?]
    | str text => simp [same]
  | arr elements ih =>
    exact sameElements_refl fun element known =>
      ih element known (elementsTidy_iff.mp tidy element known)
  | obj members ih =>
    obtain ⟨distinct, each⟩ := tidy
    rw [same, beq_self_eq_true, Bool.true_and]
    exact sameMembers_refl distinct fun member known =>
      ih member known (membersTidy_iff.mp each member known)

/-- What an interpreter is read as: the one with some name, or one that is known by the value itself. -/
theorem LooseInterpreter.ofJson_cases (value : Json) :
    (∃ name, ofJson value = (Interpreter.ofName name).loosen) ∨ ofJson value = .known value := by
  cases present : value.present with
  | false =>
    refine Or.inl ⟨"", ?_⟩
    rw [ofJson, if_neg (by rw [present]; exact Bool.false_ne_true)]
    rfl
  | true =>
    rw [ofJson, if_pos present]
    cases value with
    | str name => exact Or.inl ⟨name, rfl⟩
    | _ => exact Or.inr rfl

theorem LooseInterpreter.toJson_ofJson (value : Json) :
    (ofJson value).toJson = value ∨ ∃ name, (ofJson value).toJson = .str name := by
  rcases ofJson_cases value with ⟨name, read⟩ | read
  · rw [read]
    exact Or.inr ⟨_, Interpreter.toJson_loosen _⟩
  · rw [read]
    exact Or.inl rfl

/-- Reading what an interpreter that was read is named by gives that interpreter again. -/
theorem LooseInterpreter.ofJson_settled (value : Json) :
    ofJson (ofJson value).toJson = ofJson value := by
  rcases ofJson_cases value with ⟨name, read⟩ | read
  · rw [read, ofJson_toJson, Interpreter.name_ofName]
  · rw [read]
    exact read

theorem flagsOfJson_cases {value : Json} {flags : List Json} (read : flagsOfJson value = .ok flags) :
    value = .arr flags ∨ ∃ texts : List String, flags = texts.map .str := by
  unfold flagsOfJson at read
  split at read
  · split at read
    · cases read
      exact Or.inl rfl
    · next text _ =>
      cases read
      exact Or.inr ⟨text.toList.map fun c => .ofList [c], by simp [Function.comp_def]⟩
    · next members _ =>
      cases read
      exact Or.inr ⟨members.map Prod.fst, by simp [Function.comp_def]⟩
    · cases read
  · cases read
    exact Or.inr ⟨[], rfl⟩

theorem flaw?_obj_eq_none_iff {room : Nat} {members : Members} :
    (Json.obj members).flaw? (room + 1) = none ↔ ∀ member ∈ members, member.2.flaw? room = none := by
  rw [Json.flaw?, membersFlaw?_eq_findSome?, List.findSome?_eq_none_iff]

theorem integerFlaw?_zero : integerFlaw? 0 = none :=
  (integerFlaw?_eq_none_iff 0).mpr (tenTo_le_tenTo (Nat.zero_le integerDigitLimit))

section

variable {members : Members} {record : LooseRecord}

/-- What holds of the values of an object, of truth values, of texts and of arrays of them holds of
what is written of the record that the object is read as. -/
theorem LooseRecord.forall_value {P : Json → Prop}
    (decoded : LooseRecord.decode (.obj members) = .ok record)
    (given : ∀ member ∈ members, P member.2) (null : P .null) (bool : ∀ known, P (.bool known))
    (zero : P (.int 0)) (text : ∀ text, P (.str text))
    (texts : ∀ texts : List String, P (.arr (texts.map .str))) (field : Field) :
    P (record.value field) := by
  obtain ⟨flags, ending, eol, read, rfl⟩ := assemble_of_decode decoded
  have found {name : String} {value : Json} (known : members.lookup name = some value) : P value :=
    given _ (mem_of_lookup known)
  -- A value comes from the object, from a default, or from what a checked field was converted to.
  cases field with
  | plain field =>
    dsimp only [value, assemble]
    cases known : members.lookup field.name with
    | some value => exact found known
    | none =>
      rw [Option.getD_none]
      cases field with
      | path | filename | basename | extension | shebang => exact text ""
      | permissions => exact zero
      | _ => exact bool false
  | interpreter =>
    dsimp only [value, assemble]
    cases known : members.lookup Field.interpreter.name with
    | none => exact text ""
    | some value =>
      rw [Option.map_some, Option.getD_some]
      rcases LooseInterpreter.toJson_ofJson value with same | ⟨name, named⟩
      · rw [same]
        exact found known
      · rw [named]
        exact text name
  | interpreterFlags =>
    dsimp only [value, assemble]
    unfold readField at read
    cases known : members.lookup Field.interpreterFlags.name with
    | none =>
      rw [known] at read
      cases read
      exact texts []
    | some value =>
      rw [known] at read
      rcases flagsOfJson_cases read with rfl | ⟨names, rfl⟩
      · exact found known
      · exact texts names
  | lineEnding => exact text ending.text
  | finalEol =>
    dsimp only [value, assemble]
    rw [FinalEol.toJson]
    cases eol.isPresent? with
    | none => exact null
    | some known => exact bool known

theorem LooseRecord.interpreter_settled
    (decoded : LooseRecord.decode (.obj members) = .ok record) :
    LooseInterpreter.ofJson record.interpreter.toJson = record.interpreter := by
  obtain ⟨flags, ending, eol, _, rfl⟩ := assemble_of_decode decoded
  dsimp only [assemble]
  cases members.lookup Field.interpreter.name with
  | none => rfl
  | some value => exact LooseInterpreter.ofJson_settled value

/-- A record that was read is read again from what it is written as. -/
theorem LooseRecord.decode_settled (decoded : LooseRecord.decode (.obj members) = .ok record) :
    LooseRecord.decode record.toJson = .ok record := by
  rw [decode_written, interpreter_settled decoded]

theorem LooseRecord.tidy_value (decoded : LooseRecord.decode (.obj members) = .ok record)
    (tidy : (Json.obj members).Tidy) (field : Field) : (record.value field).Tidy :=
  forall_value decoded (membersTidy_iff.mp tidy.2) trivial (fun _ => trivial) trivial
    (fun _ => trivial) elementsTidy_texts field

theorem LooseRecord.tidy_toJson (decoded : LooseRecord.decode (.obj members) = .ok record)
    (tidy : (Json.obj members).Tidy) : record.toJson.Tidy :=
  tidy_of_values (tidy_value decoded tidy)

theorem LooseRecord.same_refl (decoded : LooseRecord.decode (.obj members) = .ok record)
    (tidy : (Json.obj members).Tidy) : record.same record = true := by
  have each := tidy_value decoded tidy
  have interpreter : record.interpreter.same record.interpreter = true := by
    have named := each .interpreter
    rw [value] at named
    cases shape : record.interpreter with
    | known name =>
      rw [shape] at named
      exact named.same_refl
    | genericPosix => rfl
    | unresolved => rfl
  have flags : sameElements record.interpreterFlags record.interpreterFlags = true :=
    (each .interpreterFlags).same_refl
  rw [same, interpreter, flags, beq_self_eq_true, beq_self_eq_true]
  refine List.all_eq_true.mpr fun field _ => ?_
  cases field with
  | plain field => exact (each (.plain field)).same_refl
  | _ => rfl

/-- Written and read again, a record is the same, where collections may be nested up to some depth by the
one who writes and up to another by the one who reads. -/
def LooseRecord.ReadsBack (record : LooseRecord) (layout : Layout) (writing reading : Nat) : Prop :=
  ∃ text, record.write writing layout = .ok text ∧ LooseRecord.parse reading text = .ok record

/-- A record reads back, in either layout, exactly if no value of it has a flaw. -/
theorem LooseRecord.readsBack_iff (decoded : LooseRecord.decode (.obj members) = .ok record)
    (tidy : (Json.obj members).Tidy) (layout : Layout) (writing reading : Nat) :
    record.ReadsBack layout writing reading ↔
      record.toJson.flaw? writing = none ∧ record.toJson.flaw? reading = none := by
  have parsed := parse_written record layout (tidy_toJson decoded tidy) reading
  rw [interpreter_settled decoded] at parsed
  rw [ReadsBack, write, Json.write, ← jsonText]
  cases record.toJson.flaw? writing with
  | some flaw => simp
  | none =>
    cases flaw : record.toJson.flaw? reading with
    | some flawed => simp [parsed, flaw]
    | none => simp [parsed, flaw]

/-- A decoded record has no new flaw, as long as two collections may be nested. -/
theorem LooseRecord.flaw?_toJson (decoded : LooseRecord.decode (.obj members) = .ok record)
    {limit : Nat} (deep : 2 ≤ limit) (fine : (Json.obj members).flaw? limit = none) :
    record.toJson.flaw? limit = none := by
  obtain ⟨room, rfl⟩ := Nat.exists_eq_add_of_le' deep
  refine flaw?_obj_eq_none_iff.mpr fun member written => ?_
  obtain ⟨field, _, rfl⟩ := List.mem_map.mp written
  exact forall_value (P := fun value => value.flaw? (room + 1) = none) decoded
    (flaw?_obj_eq_none_iff.mp fine) rfl (fun _ => rfl) integerFlaw?_zero (fun _ => rfl)
    (elementsFlaw?_texts room) field

/-- The fields that are checked or converted. -/
def checkedNames : List String :=
  [Field.interpreter, .interpreterFlags, .lineEnding, .finalEol].map Field.name

/-- A field that is not checked is written as it was given. -/
theorem LooseRecord.member?_toJson (decoded : LooseRecord.decode (.obj members) = .ok record)
    (distinct : (members.map Prod.fst).Nodup) {member : String × Json} (known : member ∈ members)
    (unchecked : member.1 ∉ checkedNames) : record.toJson.member? member.1 = some member.2 := by
  have names := ((decodes_iff members).mp ⟨record, decoded⟩).names
  obtain ⟨field, _, named⟩ := List.mem_map.mp (names member known)
  obtain ⟨flags, ending, eol, _, rfl⟩ := assemble_of_decode decoded
  have found := lookup_of_mem distinct known
  rw [← named] at found ⊢
  rw [toJson, ← LooseRecord.members, Json.member?, lookup_members]
  cases field with
  | plain field =>
    dsimp only [value, assemble]
    rw [show field.name = (Field.plain field).name from rfl, found, Option.getD_some]
  | interpreter | interpreterFlags | lineEnding | finalEol =>
    rw [← named] at unchecked
    exact absurd (by decide) unchecked

end

/-- An object is read as a record exactly if it is acceptable, and refused otherwise for the first that
fails. What it is read as is read again from its own members, and from its text exactly if no value of it
is too long, or nested too deeply to be written or read; fields that are not checked keep their values. -/
theorem decoding_settles {members : Members} (tidy : (Json.obj members).Tidy) :
    ((∃ record, LooseRecord.decode (.obj members) = .ok record) ↔ Acceptable members) ∧
    (∀ flaw, LooseRecord.decode (.obj members) = .error flaw ↔ Refused members flaw) ∧
    ∀ record, LooseRecord.decode (.obj members) = .ok record →
      LooseRecord.decode record.toJson = .ok record ∧ record.same record = true ∧
      (∀ layout writing reading, record.ReadsBack layout writing reading ↔
        record.toJson.flaw? writing = none ∧ record.toJson.flaw? reading = none) ∧
      (∀ limit, 2 ≤ limit → (Json.obj members).flaw? limit = none →
        record.toJson.flaw? limit = none) ∧
      ∀ member ∈ members, member.1 ∉ checkedNames →
        record.toJson.member? member.1 = some member.2 :=
  ⟨LooseRecord.decodes_iff members, LooseRecord.decode_error_iff members, fun _ decoded =>
    ⟨LooseRecord.decode_settled decoded, LooseRecord.same_refl decoded tidy,
      LooseRecord.readsBack_iff decoded tidy, fun _ deep => LooseRecord.flaw?_toJson decoded deep,
      fun _ known => LooseRecord.member?_toJson decoded tidy.1 known⟩⟩

/-- Members of every checked kind, and a value of the wrong kind that nobody looks at. -/
def strayMembers : Members :=
  [("path", .arr [.null]), ("interpreter_flags", .str "eu"), ("line_ending", .str "\r\n"),
    ("final_eol", .int 1)]

theorem decoding_settles_stray :
    (Json.obj strayMembers).Tidy ∧ ∃ record, LooseRecord.decode (.obj strayMembers) = .ok record ∧
      LooseRecord.decode record.toJson = .ok record ∧
      record.ReadsBack .indented 3 3 ∧
      record.toJson.member? "path" = some (.arr [.null]) := by
  have tidy : (Json.obj strayMembers).Tidy :=
    ⟨by decide, ⟨trivial, trivial⟩, trivial, trivial, trivial, trivial⟩
  obtain ⟨readable, _, settles⟩ := decoding_settles tidy
  have short : integerFlaw? 1 = none :=
    (integerFlaw?_eq_none_iff 1).mpr (Nat.lt_of_lt_of_le (by decide : 1 < tenTo 1)
      (tenTo_le_tenTo (by decide : 1 ≤ integerDigitLimit)))
  have acceptable : Acceptable strayMembers := by
    refine ⟨by decide, ?_, ?_, ?_⟩
    · rintro value ⟨⟩
      exact Or.inr (Or.inl ⟨_, rfl⟩)
    · rintro value ⟨⟩
      exact ⟨.crlf, rfl⟩
    · rintro value ⟨⟩
      exact Or.inr ⟨true, rfl⟩
  obtain ⟨record, decoded⟩ := readable.mpr acceptable
  obtain ⟨again, _, reads, writable, keeps⟩ := settles record decoded
  have fine : (Json.obj strayMembers).flaw? 3 = none := by
    simp [strayMembers, Json.flaw?, membersFlaw?, elementsFlaw?, short]
  have written := writable 3 (by decide) fine
  exact ⟨tidy, record, decoded, again, (reads .indented 3 3).mpr ⟨written, written⟩,
    keeps _ (List.mem_cons_self ..) (by decide)⟩

/-- An object with a value that nobody checks. -/
def soleMember (field : PlainField) (value : Json) : Members := [(field.name, value)]

theorem decode_soleMember (field : PlainField) (value : Json) :
    ∃ record, LooseRecord.decode (.obj (soleMember field value)) = .ok record := by
  refine Acceptable.decode ⟨?_, ?_, ?_, ?_⟩
  · rintro member known
    rw [List.mem_singleton.mp known]
    exact List.mem_map.mpr ⟨.plain field, Field.mem_all _, rfl⟩
  all_goals
    intro checked given
    cases field <;> cases given

/-- With a flaw in that value, the record is not read back. -/
theorem LooseRecord.not_readsBack_of_sole {field : PlainField} {value : Json} (tidy : value.Tidy)
    {record : LooseRecord}
    (decoded : LooseRecord.decode (.obj (soleMember field value)) = .ok record) {limit : Nat}
    (flawed : ∀ room, room ≤ limit → value.flaw? room ≠ none) (layout : Layout) (other : Nat) :
    ¬ record.ReadsBack layout limit other ∧ ¬ record.ReadsBack layout other limit := by
  have tidyWhole : (Json.obj (soleMember field value)).Tidy :=
    ⟨List.nodup_cons.mpr ⟨List.not_mem_nil, List.nodup_nil⟩, tidy, trivial⟩
  have unchecked : field.name ∉ checkedNames := by cases field <;> decide
  have kept : record.members.lookup field.name = some value :=
    member?_toJson decoded tidyWhole.1 (List.mem_singleton_self _) unchecked
  have unwritable : record.toJson.flaw? limit ≠ none := by
    cases limit with
    | zero => exact nofun
    | succ room =>
      intro fine
      exact flawed room (Nat.le_succ room) (flaw?_obj_eq_none_iff.mp fine _ (mem_of_lookup kept))
  rw [readsBack_iff decoded tidyWhole, readsBack_iff decoded tidyWhole]
  exact ⟨fun both => unwritable both.1, fun both => unwritable both.2⟩

/-- Arrays nested in each other. -/
def nestedArray : Nat → Json
  | 0 => .arr []
  | depth + 1 => .arr [nestedArray depth]

theorem tidy_nestedArray (depth : Nat) : (nestedArray depth).Tidy := by
  induction depth with
  | zero => trivial
  | succ depth ih => exact ⟨ih, trivial⟩

theorem flaw?_nestedArray {room depth : Nat} (deep : room ≤ depth) :
    (nestedArray depth).flaw? room ≠ none := by
  induction depth generalizing room with
  | zero =>
    cases Nat.le_zero.mp deep
    exact nofun
  | succ depth ih =>
    cases room with
    | zero => exact nofun
    | succ room =>
      intro fine
      rw [nestedArray, Json.flaw?, elementsFlaw?, Option.or_eq_none_iff] at fine
      exact ih (Nat.le_of_succ_le_succ deep) fine.1

/-- Objects that are read as records need not survive writing: one with permissions of a digit too many
never does, and whatever depth collections may be nested to, there is one that is nested too deeply. -/
theorem decoded_record_unreadable :
    (∃ record, LooseRecord.decode (.obj (soleMember .permissions (.int (tenTo integerDigitLimit)))) =
          .ok record ∧
        ∀ layout writing reading, ¬ record.ReadsBack layout writing reading) ∧
      ∀ limit, ∃ record,
        LooseRecord.decode (.obj (soleMember .path (nestedArray limit))) = .ok record ∧
        ∀ layout other, ¬ record.ReadsBack layout limit other ∧ ¬ record.ReadsBack layout other limit := by
  constructor
  · have overlong (room : Nat) : (Json.int (tenTo integerDigitLimit)).flaw? room ≠ none := by
      rw [Json.flaw?, ne_eq, integerFlaw?_eq_none_iff, Int.natAbs_natCast]
      exact Nat.lt_irrefl _
    generalize ((tenTo integerDigitLimit : Nat) : Int) = number at overlong ⊢
    obtain ⟨record, decoded⟩ := decode_soleMember .permissions (.int number)
    refine ⟨record, decoded, fun layout writing reading => ?_⟩
    have tidy : (Json.int number).Tidy := trivial
    exact (LooseRecord.not_readsBack_of_sole tidy decoded (fun room _ => overlong room) layout
      reading).1
  · intro limit
    obtain ⟨record, decoded⟩ := decode_soleMember .path (nestedArray limit)
    exact ⟨record, decoded, LooseRecord.not_readsBack_of_sole (tidy_nestedArray limit) decoded
      fun _ deep => flaw?_nestedArray deep⟩

end ShellSurvey
