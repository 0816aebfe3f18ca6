import ShellSurvey.Finding.Identifier
import ShellSurvey.Finding.Location
import ShellSurvey.Finding.Template

namespace ShellSurvey

/-- How grave a finding is. -/
inductive Severity where
  | info
  | warning
  | error
  deriving DecidableEq, Repr

def Severity.all : List Severity := [.info, .warning, .error]

def Severity.name : Severity → String
  | .info => "info"
  | .warning => "warning"
  | .error => "error"

def Severity.ofName? (name : String) : Option Severity := Severity.all.find? (·.name = name)

/-- An outcome of a rule. Its identifier never changes. -/
structure FindingKind where
  id : String
  template : String
  severity : Severity := .error
  deriving DecidableEq, Repr

/-- Why some values make no kind of finding. -/
inductive KindFlaw where
  | badSeverity (value : Json)
  | idNotText (value : Json)
  | badId (id : String)

def KindFlaw.message : KindFlaw → String
  | .badSeverity value => value.literal ++ " is not a valid Severity"
  | .idNotText value => "Invalid ID: " ++ value.display
  | .badId id => "Invalid UUID: " ++ id

/-- The kind of finding with the given values, the severity being looked at first. -/
def FindingKind.ofValues (id : Json) (template : String) (severity : Json) :
    Except KindFlaw FindingKind :=
  let known :=
    match severity with
    | .str name => Severity.ofName? name
    | _ => none
  match known, id with
  | none, _ => .error (.badSeverity severity)
  | some severity, .str id =>
    if isIdentifier id then .ok ⟨id, template, severity⟩ else .error (.badId id)
  | some _, other => .error (.idNotText other)

/-- A finding. No values differ from an empty set of them. -/
structure Finding where
  kind : FindingKind
  values : Option Members := none
  location : Option Location := none

/-- The name of the kind itself among the values of a finding: no value can have it. -/
def selfName : String := "self"

/-- Why some values do not go with a kind. -/
inductive ValuesFlaw where
  | selfNamed
  deriving DecidableEq, Repr

def ValuesFlaw.message : ValuesFlaw → String
  | .selfNamed =>
    "IssueType.make() got multiple values for argument '" ++ selfName ++ "'"

/-- A finding without a location, with the values given for its message. -/
def FindingKind.withValues (kind : FindingKind) (values : Option Members) :
    Except ValuesFlaw Finding :=
  if (values.getD []).any fun value => value.1 = selfName then .error .selfNamed
  else .ok { kind := kind, values := values }

/-- The finding with one more place added to its location. -/
def Finding.locate (finding : Finding) (place : Location) : Except LocationClash Finding :=
  match finding.location with
  | none => .ok { finding with location := some place }
  | some location => (location.add place).map fun sum => { finding with location := some sum }

/-- A finding in a file as a whole. -/
def FindingKind.inFile (kind : FindingKind) (path : String) : Finding :=
  { kind := kind, location := some ⟨path, []⟩ }

/-- A finding at a line. -/
def FindingKind.atLine (kind : FindingKind) (path : String) (line : Nat) : Finding :=
  { kind := kind, location := some ⟨path, [(line : Int)]⟩ }

/-- A finding in a file as a whole, with values for its message. -/
def FindingKind.inFileWith (kind : FindingKind) (values : Members) (path : String) : Finding :=
  { kind := kind, values := some values, location := some ⟨path, []⟩ }

/-- One finding in a file as a whole, or none. -/
def reportIf (condition : Bool) (kind : FindingKind) (path : String) : List Finding :=
  if condition then [kind.inFile path] else []

/-- The location, if there is one, and the message. -/
def Finding.describe (finding : Finding) : Except TemplateFlaw String :=
  let place :=
    match finding.location with
    | some location => location.text ++ " > "
    | none => "> "
  (fillTemplate (finding.values.getD []) finding.kind.template).map (place ++ ·)

def sameValues : Option Members → Option Members → Bool
  | none, none => true
  | some xs, some ys => (Json.obj xs).same (.obj ys)
  | _, _ => false

/-- Two findings say the same, wherever they are. -/
def Finding.repeats (a b : Finding) : Bool := a.kind = b.kind && sameValues a.values b.values

/-- A finding folded into an earlier one that says the same. If only one of them has a location, the
earlier finding stays as it is. -/
def Finding.absorb (earlier later : Finding) : Except LocationClash Finding :=
  match earlier.location, later.location with
  | some _, some place => earlier.locate place
  | _, _ => .ok earlier

end ShellSurvey
