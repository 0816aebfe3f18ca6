import ShellSurvey.Proofs.Json.RoundTrip
import ShellSurvey.Record.Decode

namespace ShellSurvey

/-- The record that reading a written record gives: of the interpreter only the name is written. -/
def Record.reread (record : Record) : Record :=
  { record with interpreter := .ofName record.interpreter.name }

theorem lookup_of_mem {α : Type} {entries : List (String × α)}
    (distinct : (entries.map Prod.fst).Nodup) {entry : String × α} (member : entry ∈ entries) :
    entries.lookup entry.1 = some entry.2 := by
  induction entries with
  | nil => cases member
  | cons head rest ih =>
    rw [List.map_cons, List.nodup_cons] at distinct
    rcases List.mem_cons.mp member with rfl | later
    · rw [List.lookup_cons, beq_self_eq_true]
    · have different : (entry.1 == head.1) = false := by
        rw [beq_eq_false_iff_ne]
        intro same
        exact distinct.1 (same ▸ List.mem_map_of_mem later)
      rw [List.lookup_cons, different]
      exact ih distinct.2 later

theorem Field.nodup_names : Field.names.Nodup := by decide

theorem checkNames_names : checkNames Field.names = .ok () := by
  have known : Field.names.filter (· ∉ Field.names) = [] := by simp
  rw [checkNames, unknownNames, known]
  rfl

/-- The members that a record is written with. -/
def LooseRecord.members (record : LooseRecord) : Members :=
  Field.all.map fun field => (field.name, record.value field)

theorem LooseRecord.names_members (record : LooseRecord) :
    record.members.map Prod.fst = Field.names := by
  simp [members, Field.names, Function.comp_def]

theorem LooseRecord.fields_toJson (record : LooseRecord) :
    record.toJson.fields = .ok record.members := by
  rw [toJson, Json.fields, ← members, names_members, checkNames_names]
  rfl

theorem LooseRecord.lookup_members (record : LooseRecord) (field : Field) :
    record.members.lookup field.name = some (record.value field) :=
  have distinct : (record.members.map Prod.fst).Nodup :=
    record.names_members ▸ Field.nodup_names
  lookup_of_mem distinct (List.mem_map_of_mem field.mem_all)

theorem LooseInterpreter.ofJson_toJson (interpreter : Interpreter) :
    LooseInterpreter.ofJson interpreter.loosen.toJson =
      (Interpreter.ofName interpreter.name).loosen := by
  rw [Interpreter.toJson_loosen, ofJson, Json.present, ofName]
  by_cases empty : interpreter.name = ""
  · simp [empty, Interpreter.ofName, Interpreter.loosen]
  · simp [empty]

theorem flagsOfJson_written (flags : List Json) : flagsOfJson (.arr flags) = .ok flags := by
  cases flags <;> rfl

theorem LineEnding.ofJson_text (ending : LineEnding) :
    LineEnding.ofJson (.str ending.text) = .ok ending := by
  rw [LineEnding.ofJson, LineEnding.ofText?_text]

theorem FinalEol.ofJson_toJson (eol : FinalEol) : FinalEol.ofJson eol.toJson = .ok eol := by
  cases eol <;> rfl

/-- Of a loose record, only the interpreter is read from what it is written as. -/
theorem LooseRecord.decode_written (record : LooseRecord) :
    LooseRecord.decode record.toJson =
      .ok { record with interpreter := .ofJson record.interpreter.toJson } := by
  have found := record.lookup_members
  have plain (field : PlainField) :
      (record.members.lookup field.name).getD field.default = record.plain field := by
    rw [show field.name = (Field.plain field).name from rfl, found]
    rfl
  rw [decode, fields_toJson]
  simp only [ofMembers, bind, Except.bind, found, plain]
  simp only [value, flagsOfJson_written, LineEnding.ofJson_text, FinalEol.ofJson_toJson]
  rfl

/-- A written record without floating point numbers reads back, its interpreter by name, unless one of
its values has a flaw. -/
theorem LooseRecord.parse_written (record : LooseRecord) (layout : Layout)
    (tidy : record.toJson.Tidy) (limit : Nat) :
    LooseRecord.parse limit (record.jsonText layout) =
      match record.toJson.flaw? limit with
      | some flaw => .error (.notJson flaw)
      | none => .ok { record with interpreter := .ofJson record.interpreter.toJson } := by
  rw [parse, jsonText, Json.parse_text layout record.toJson tidy limit]
  cases record.toJson.flaw? limit with
  | some flaw => rfl
  | none => simp only [decode_written]

theorem elementsTidy_texts (texts : List String) : ElementsTidy (texts.map .str) := by
  induction texts with
  | nil => trivial
  | cons text texts ih => exact ⟨trivial, ih⟩

theorem elementsFlaw?_texts (room : Nat) (texts : List String) :
    elementsFlaw? room (texts.map .str) = none := by
  induction texts with
  | nil => rfl
  | cons text texts ih => rw [List.map_cons, elementsFlaw?, ih]; rfl

theorem membersTidy_iff {members : Members} :
    MembersTidy members ↔ ∀ member ∈ members, member.2.Tidy := by
  induction members with
  | nil => simp [MembersTidy]
  | cons head rest ih => rw [MembersTidy, ih, List.forall_mem_cons]

theorem LooseRecord.tidy_of_values {record : LooseRecord}
    (each : ∀ field, (record.value field).Tidy) : record.toJson.Tidy := by
  refine ⟨record.names_members ▸ Field.nodup_names, membersTidy_iff.mpr ?_⟩
  intro member written
  obtain ⟨field, _, rfl⟩ := List.mem_map.mp written
  exact each field

theorem Record.tidy_value (record : Record) (field : Field) : (record.loosen.value field).Tidy := by
  cases field with
  | plain field => cases field <;> trivial
  | interpreter => rw [LooseRecord.value, loosen, Interpreter.toJson_loosen]; trivial
  | interpreterFlags => exact elementsTidy_texts record.interpreterFlags
  | lineEnding => trivial
  | finalEol =>
    rw [LooseRecord.value, loosen]
    cases record.finalEol <;> trivial

theorem Record.tidy_toJson (record : Record) : record.toJson.Tidy :=
  LooseRecord.tidy_of_values record.tidy_value

theorem membersFlaw?_eq_findSome? (room : Nat) (members : Members) :
    membersFlaw? room members = members.findSome? fun member => member.2.flaw? room := by
  induction members with
  | nil => rfl
  | cons head rest ih =>
    rw [membersFlaw?, ih, List.findSome?_cons]
    cases head.2.flaw? room <;> rfl

/-- Only the permissions can have too many digits. -/
theorem Record.flaw?_value (record : Record) (room : Nat) (field : Field) :
    (record.loosen.value field).flaw? (room + 1) =
      if field = .plain .permissions then integerFlaw? record.permissions else none := by
  cases field with
  | plain field => cases field <;> rfl
  | interpreter => rw [LooseRecord.value, loosen, Interpreter.toJson_loosen]; rfl
  | interpreterFlags => exact elementsFlaw?_texts room record.interpreterFlags
  | lineEnding => rfl
  | finalEol =>
    rw [LooseRecord.value, loosen]
    cases record.finalEol <;> rfl

theorem Record.flaw?_toJson (record : Record) {limit : Nat} (deep : 2 ≤ limit) :
    record.toJson.flaw? limit = integerFlaw? record.permissions := by
  obtain ⟨room, rfl⟩ := Nat.exists_eq_add_of_le' deep
  rw [toJson, LooseRecord.toJson, Json.flaw?, membersFlaw?_eq_findSome?, List.findSome?_map]
  simp only [Function.comp_def, record.flaw?_value]
  cases integerFlaw? record.permissions <;> rfl

/-- Reading a written record gives the record again, its interpreter by name, unless its permissions
have too many digits. -/
theorem LooseRecord.parse_jsonText (record : Record) (layout : Layout) {limit : Nat}
    (deep : 2 ≤ limit) :
    LooseRecord.parse limit (record.jsonText layout) =
      match integerFlaw? record.permissions with
      | some flaw => .error (.notJson flaw)
      | none => .ok record.reread.loosen := by
  have written := parse_written record.loosen layout record.tidy_toJson limit
  rw [LooseRecord.jsonText, ← Record.toJson, record.flaw?_toJson deep] at written
  rw [Record.jsonText, written]
  cases integerFlaw? record.permissions with
  | some flaw => rfl
  | none =>
    have interpreter := LooseInterpreter.ofJson_toJson record.interpreter
    simp only [Record.loosen, interpreter]
    rfl

/-- A record without permissions of too many digits can be written. -/
theorem LooseRecord.write_loosen {record : Record}
    (writable : record.permissions.natAbs < tenTo integerDigitLimit) (layout : Layout) {limit : Nat}
    (deep : 2 ≤ limit) : record.loosen.write limit layout = .ok (record.jsonText layout) := by
  rw [write, ← Record.toJson, Json.write, record.flaw?_toJson deep,
    (integerFlaw?_eq_none_iff _).mpr writable]
  rfl

theorem sameElements_texts (as bs : List String) :
    sameElements (as.map .str) (bs.map .str) = true ↔ as = bs := by
  induction as generalizing bs with
  | nil => cases bs <;> simp [sameElements]
  | cons a as ih => cases bs <;> simp [sameElements, Json.same, ih]

theorem Interpreter.same_loosen (a b : Interpreter) : a.loosen.same b.loosen = true ↔ a = b := by
  cases a <;> cases b <;> simp [loosen, LooseInterpreter.same, Json.same]

theorem Record.same_plainValue (a b : Record) (field : PlainField) :
    (a.plainValue field).same (b.plainValue field) = true ↔ a.plainValue field = b.plainValue field := by
  have flags (x y : Bool) : (Json.bool x).same (.bool y) = true ↔ Json.bool x = .bool y := by
    cases x <;> cases y <;> simp [Json.same, sameNumber, Json.integer?]
  have numbers (m n : Int) : (Json.int m).same (.int n) = true ↔ Json.int m = .int n := by
    simp [Json.same, sameNumber, Json.integer?]
  have texts (s t : String) : (Json.str s).same (.str t) = true ↔ Json.str s = .str t := by
    simp [Json.same]
  cases field
  case permissions => exact numbers _ _
  case path | filename | basename | extension | shebang => exact texts _ _
  all_goals exact flags _ _

theorem Record.eq_of_loosen_eq {a b : Record} (same : a.loosen = b.loosen) : a = b := by
  rw [← a.settle_loosen, ← b.settle_loosen, same]

/-- Equality of loose records, where they are records, is equality. -/
theorem Record.same_loosen_iff (a b : Record) : a.loosen.same b.loosen = true ↔ a = b := by
  simp only [LooseRecord.same, Bool.and_eq_true, beq_iff_eq, List.all_eq_true]
  constructor
  · rintro ⟨⟨⟨⟨interpreter, flags⟩, ending⟩, eol⟩, plain⟩
    refine Record.eq_of_loosen_eq ?_
    have values : a.plainValue = b.plainValue := by
      funext field
      exact (a.same_plainValue b field).mp (plain (.plain field) (Field.mem_all _))
    have interpreters := (Interpreter.same_loosen _ _).mp interpreter
    have flagLists := (sameElements_texts _ _).mp flags
    have endings : a.lineEnding = b.lineEnding := ending
    have eols : a.finalEol = b.finalEol := eol
    simp only [loosen, values, interpreters, flagLists, endings, eols]
  · rintro rfl
    refine ⟨⟨⟨⟨?_, ?_⟩, rfl⟩, rfl⟩, ?_⟩
    · exact (Interpreter.same_loosen _ _).mpr rfl
    · exact (sameElements_texts _ _).mpr rfl
    · intro field _
      cases field with
      | plain field => exact (a.same_plainValue a field).mpr rfl
      | _ => rfl

theorem Record.reread_eq_iff (record : Record) :
    record.reread = record ↔
      record.interpreter ≠ .known "" ∧ record.interpreter ≠ .known genericName := by
  have same : record.reread = record ↔
      Interpreter.ofName record.interpreter.name = record.interpreter :=
    ⟨fun equal => congrArg Record.interpreter equal, fun equal => by rw [reread, equal]⟩
  rw [same]
  cases record.interpreter with
  | known name =>
    rw [Interpreter.name, Interpreter.ofName]
    split
    · next empty => simp [empty]
    split
    · next generic => simp [generic]
    · next nonempty other => simp [nonempty, other]
  | genericPosix => simp [Interpreter.name, Interpreter.ofName, genericName]
  | unresolved => simp [Interpreter.name, Interpreter.ofName]

/-- A record can be written and reads back as an equal one, unless its interpreter is known by one of the
two names that stand for no known interpreter; then it reads back as what the name stands for. -/
theorem written_record_reads_back (record : Record) (layout : Layout)
    (writable : record.permissions.natAbs < tenTo integerDigitLimit) {writing reading : Nat}
    (deep : 2 ≤ writing ∧ 2 ≤ reading) :
    ∃ again : Record, record.loosen.write writing layout = .ok (record.jsonText layout) ∧
      LooseRecord.parse reading (record.jsonText layout) = .ok again.loosen ∧
      (again.loosen.same record.loosen = true ↔
        record.interpreter ≠ .known "" ∧ record.interpreter ≠ .known genericName) ∧
      (record.interpreter = .known "" → again = { record with interpreter := .unresolved }) ∧
      (record.interpreter = .known genericName →
        again = { record with interpreter := .genericPosix }) := by
  refine ⟨record.reread, LooseRecord.write_loosen writable layout deep.1, ?_, ?_, ?_, ?_⟩
  · rw [LooseRecord.parse_jsonText record layout deep.2, (integerFlaw?_eq_none_iff _).mpr writable]
  · rw [Record.same_loosen_iff, record.reread_eq_iff]
  · intro empty
    rw [Record.reread, empty]
    rfl
  · intro generic
    rw [Record.reread, generic]
    rfl

theorem written_record_reads_back_generic :
    (0o755 : Int).natAbs < tenTo integerDigitLimit ∧
      ∃ again : Record,
        LooseRecord.parse 2 (Record.jsonText
          { path := "run \"é😀\n", permissions := 0o755, interpreter := .known "generic-sh" }
          .indented) = .ok again.loosen ∧
        again.loosen.same (Record.loosen
          { path := "run \"é😀\n", permissions := 0o755, interpreter := .known "generic-sh" }) =
            false ∧
        again = { path := "run \"é😀\n", permissions := 0o755, interpreter := .genericPosix } := by
  have writable : (0o755 : Int).natAbs < tenTo integerDigitLimit :=
    Nat.lt_of_lt_of_le (by decide : 0o755 < tenTo 3)
      (tenTo_le_tenTo (by decide : 3 ≤ integerDigitLimit))
  obtain ⟨again, _, read, same, _, generic⟩ := written_record_reads_back
    { path := "run \"é😀\n", permissions := 0o755, interpreter := .known "generic-sh" } .indented
    writable ⟨Nat.le_refl 2, Nat.le_refl 2⟩
  refine ⟨writable, again, read, ?_, generic rfl⟩
  rw [Bool.eq_false_iff, ne_eq, same]
  exact fun neither => neither.2 rfl

/-- Permissions of too many digits are a flaw, however deeply collections may be nested. -/
theorem Record.flaw?_toJson_overlong {record : Record}
    (overlong : tenTo integerDigitLimit ≤ record.permissions.natAbs) (limit : Nat) :
    record.toJson.flaw? limit ≠ none := by
  cases limit with
  | zero => exact nofun
  | succ room =>
    intro fine
    rw [toJson, LooseRecord.toJson, Json.flaw?, membersFlaw?_eq_findSome?, List.findSome?_map,
      List.findSome?_eq_none_iff] at fine
    have short : integerFlaw? record.permissions = none :=
      fine (.plain .permissions) (Field.mem_all _)
    exact Nat.not_lt.mpr overlong ((integerFlaw?_eq_none_iff _).mp short)

/-- Permissions of one digit too many can be neither written nor read. -/
theorem overlong_permissions_unreadable :
    (¬ ∃ limit text, LooseRecord.write limit .compact
        (Record.loosen { permissions := tenTo integerDigitLimit }) = .ok text) ∧
      ¬ ∃ limit again, LooseRecord.parse limit
        (Record.jsonText { permissions := tenTo integerDigitLimit } .compact) = .ok again := by
  have large (n : Nat) : n ≤ (n : Int).natAbs := Nat.le_of_eq (Int.natAbs_natCast n).symm
  have overlong := large (tenTo integerDigitLimit)
  generalize ((tenTo integerDigitLimit : Nat) : Int) = permissions at overlong ⊢
  have flawed (limit : Nat) : (Record.toJson { permissions := permissions }).flaw? limit ≠ none :=
    Record.flaw?_toJson_overlong overlong limit
  constructor
  · rintro ⟨limit, text, written⟩
    obtain ⟨flaw, found⟩ := Option.ne_none_iff_exists'.mp (flawed limit)
    rw [LooseRecord.write, ← Record.toJson, Json.write, found] at written
    cases written
  · rintro ⟨limit, again, read⟩
    obtain ⟨flaw, found⟩ := Option.ne_none_iff_exists'.mp (flawed limit)
    have parsed := LooseRecord.parse_written (Record.loosen { permissions := permissions }) .compact
      (Record.tidy_toJson _) limit
    rw [← Record.toJson, found] at parsed
    cases read.symm.trans parsed

end ShellSurvey
