import ShellSurvey.Record.Loose

namespace ShellSurvey

/-- Why a value is no record. -/
inductive RecordFlaw where
  | notACollection (kind : String)
  | nestedCollection (kind : String)
  | nameNotText (kind : String)
  | unknownFields (names : List String)
  | namesWithoutValues (length : Nat)
  | badLineEnding (value : Json)
  | badFinalEol (value : Json)

def RecordFlaw.message : RecordFlaw → String
  | .notACollection kind => "'" ++ kind ++ "' object is not iterable"
  | .nestedCollection kind => "unhashable type: '" ++ kind ++ "'"
  | .nameNotText kind => "sequence item 0: expected str instance, " ++ kind ++ " found"
  | .unknownFields names => "Unknown smell fields: " ++ joinTexts ", " names
  | .namesWithoutValues length =>
    "dictionary update sequence element #0 has length " ++ natText length ++ "; 2 is required"
  | .badLineEnding value => value.literal ++ " is not a valid LineEnding"
  | .badFinalEol value => value.literal ++ " is not a valid FinalEOL"

/-- Puts a name into a list in order of characters, unless it is there. -/
def insertName (name : String) : List String → List String
  | [] => [name]
  | known :: rest =>
    if known = name then known :: rest
    else if name < known then name :: known :: rest
    else known :: insertName name rest

/-- The names that are no fields, in order of characters. -/
def unknownNames (names : List String) : List String :=
  (names.filter (· ∉ Field.names)).foldr insertName []

def checkNames (names : List String) : Except RecordFlaw Unit :=
  match unknownNames names with
  | [] => .ok ()
  | unknown => .error (.unknownFields unknown)

/-- The first value that is itself a collection. -/
def firstNested : List Json → Option Json
  | [] => none
  | .arr elements :: _ => some (.arr elements)
  | .obj members :: _ => some (.obj members)
  | _ :: rest => firstNested rest

/-- The members that a value stands for. Only objects and empty collections stand for any. Of numbers
in place of names the least is reported. -/
def Json.fields : Json → Except RecordFlaw Members
  | .obj members => (checkNames (members.map Prod.fst)).map fun _ => members
  | .str text =>
    (checkNames (text.toList.map fun c => .ofList [c])).map fun _ => []
  | .arr elements =>
    match firstNested elements with
    | some inner => .error (.nestedCollection inner.kindName)
    | none =>
      match leastNumber? (elements.filter fun element => element.text?.isNone) with
      | some other => .error (.nameNotText other.kindName)
      | none =>
        let names := elements.filterMap Json.text?
        match checkNames names, names with
        | .error flaw, _ => .error flaw
        | .ok _, [] => .ok []
        | .ok _, first :: _ => .error (.namesWithoutValues first.length)
  | value => .error (.notACollection value.kindName)

/-- The interpreter of a name, which may be any value. -/
def LooseInterpreter.ofName : Json → LooseInterpreter
  | .str name => (Interpreter.ofName name).loosen
  | other => .known other

/-- The interpreter that a field names. Whatever counts as nothing names none. -/
def LooseInterpreter.ofJson (value : Json) : LooseInterpreter :=
  if value.present then .ofName value else .unresolved

/-- Flags from a collection: the characters of a text, the names of an object. Whatever counts as
nothing is no flags. -/
def flagsOfJson (value : Json) : Except RecordFlaw (List Json) :=
  if value.present then
    match value with
    | .arr elements => .ok elements
    | .str text => .ok (text.toList.map fun c => .str (.ofList [c]))
    | .obj members => .ok (members.map fun member => .str member.1)
    | other => .error (.notACollection other.kindName)
  else .ok []

def LineEnding.ofJson (value : Json) : Except RecordFlaw LineEnding :=
  match value with
  | .str text =>
    match LineEnding.ofText? text with
    | .some ending => .ok ending
    | .none => .error (.badLineEnding value)
  | value => .error (.badLineEnding value)

def FinalEol.ofJson (value : Json) : Except RecordFlaw FinalEol :=
  match value with
  | .null => .ok .notComputed
  | value =>
    if sameNumber value (.bool true) then .ok .present
    else if sameNumber value (.bool false) then .ok .absent
    else .error (.badFinalEol value)

/-- The value of a field that is not given. -/
def PlainField.default (field : PlainField) : Json := ({} : Record).plainValue field

/-- The record with the given members, all names being known. -/
def LooseRecord.ofMembers (members : Members) : Except RecordFlaw LooseRecord := do
  let interpreter := match members.lookup Field.interpreter.name with
    | some value => LooseInterpreter.ofJson value
    | none => .unresolved
  let flags ← match members.lookup Field.interpreterFlags.name with
    | some value => flagsOfJson value
    | none => .ok []
  let ending ← match members.lookup Field.lineEnding.name with
    | some value => LineEnding.ofJson value
    | none => .ok .none
  let eol ← match members.lookup Field.finalEol.name with
    | some value => FinalEol.ofJson value
    | none => .ok .notComputed
  return {
    plain := fun field => (members.lookup field.name).getD field.default
    interpreter := interpreter
    interpreterFlags := flags
    lineEnding := ending
    finalEol := eol }

def LooseRecord.decode (value : Json) : Except RecordFlaw LooseRecord := do
  LooseRecord.ofMembers (← value.fields)

/-- Why a text is no record: it writes no value, or the value is no record. -/
inductive RecordTextFlaw where
  | notJson (flaw : JsonFlaw)
  | notARecord (flaw : RecordFlaw)

/-- The record that a text writes, where collections may be nested up to some depth. -/
def LooseRecord.parse (limit : Nat) (text : String) : Except RecordTextFlaw LooseRecord :=
  match Json.parse limit text with
  | .error flaw => .error (.notJson flaw)
  | .ok value =>
    match LooseRecord.decode value with
    | .error flaw => .error (.notARecord flaw)
    | .ok record => .ok record

def LooseRecord.jsonText (record : LooseRecord) (layout : Layout) : String :=
  record.toJson.text layout

def LooseRecord.write (limit : Nat) (layout : Layout) (record : LooseRecord) :
    Except JsonFlaw String := record.toJson.write limit layout

/-- Writing a record on one line and reading it again gives an equal record. -/
def LooseRecord.survivesWriting (limit : Nat) (record : LooseRecord) : Bool :=
  match record.write limit .compact with
  | .error _ => false
  | .ok text =>
    match LooseRecord.parse limit text with
    | .ok again => again.same record
    | .error _ => false

end ShellSurvey
