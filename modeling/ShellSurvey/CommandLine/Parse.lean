import ShellSurvey.CommandLine.Grammar
import ShellSurvey.Text.Digit
import ShellSurvey.Text.Quoted
import ShellSurvey.Text.Split

namespace ShellSurvey

/-- What ends reading early: a wish to see a text, or a mistake. -/
inductive Stop where
  | help (level : Level)
  | version
  | mistake (level : Level) (text : String)
  deriving DecidableEq, Repr

/-- An argument that was recognised as an option: which one, if any, under which spelling, and the
value that came with it. -/
structure OptionUse where
  spec : Option OptionSpec
  spelling : String
  value : Option (List Char) := none
  deriving DecidableEq, Repr

/-- An argument on its own: a value, the double hyphen that ends the options, or an option. -/
inductive Token where
  | plain (text : String)
  | divider
  | option (text : String) (use : OptionUse)
  deriving DecidableEq, Repr

def Token.text : Token → String
  | .plain text => text
  | .divider => "--"
  | .option text _ => text

/-- The parts of an argument before and after its first equals sign. -/
def splitSign (arg : List Char) : List Char × Option (List Char) :=
  match arg.dropWhile (· ≠ '=') with
  | [] => (arg, none)
  | _ :: value => (arg.takeWhile (· ≠ '='), some value)

/-- The options that an argument may be a short form of. After a single hyphen, letters that follow
the first are the value of its option. -/
def Level.candidates (level : Level) (arg : List Char) : List OptionUse :=
  match arg with
  | '-' :: '-' :: _ =>
    let (name, value) := splitSign arg
    level.spellings.filterMap fun (spelling, spec) =>
      if name.isPrefixOf spelling.toList then some ⟨spec, spelling, value⟩ else none
  | _ =>
    level.spellings.filterMap fun (spelling, spec) =>
      if spelling.toList = arg.take 2 then some ⟨spec, spelling, some (arg.drop 2)⟩
      else if arg.isPrefixOf spelling.toList then some ⟨spec, spelling, none⟩
      else none

/-- One digit or more, and nothing else. -/
def isDigits (cs : List Char) : Bool := !cs.isEmpty && cs.all fun c => (digitValue? c).isSome

/-- A negative number, with or without a fraction; a line feed may end it. -/
def isNegativeNumber (arg : List Char) : Bool :=
  match arg with
  | '-' :: rest =>
    let body := if rest.getLast? = some '\n' then rest.dropLast else rest
    let whole := body.takeWhile fun c => (digitValue? c).isSome
    match body.drop whole.length with
    | [] => isDigits whole
    | '.' :: fraction => isDigits fraction
    | _ => false
  | _ => false

/-- Tells whether an argument is an option. Numbers and texts with a space are none unless they fit
one; a single hyphen is none either. -/
def Level.recognise (level : Level) (arg : String) : Except Stop (Option OptionUse) :=
  let cs := arg.toList
  if cs.head? ≠ some '-' then .ok none
  else
    match level.spellings.lookup arg with
    | some spec => .ok (some { spec := some spec, spelling := arg })
    | none =>
      if cs.length = 1 then .ok none
      else
        let (name, value) := splitSign cs
        let named := if value.isSome then level.spellings.lookup (.ofList name) else none
        match named with
        | some spec => .ok (some ⟨some spec, .ofList name, value⟩)
        | none =>
          match level.candidates cs with
          | [] =>
            if isNegativeNumber cs || cs.contains ' ' then .ok none
            else .ok (some { spec := none, spelling := arg })
          | [use] => .ok (some use)
          | uses =>
            .error (.mistake level ("ambiguous option: " ++ arg ++ " could match " ++
              joinTexts ", " (uses.map OptionUse.spelling)))

/-- All arguments of a level as tokens. -/
def Level.tokens (level : Level) : List String → Except Stop (List Token)
  | [] => .ok []
  | arg :: rest =>
    if arg = "--" then .ok (.divider :: rest.map Token.plain)
    else do
      let use ← level.recognise arg
      let tokens ← level.tokens rest
      return (match use with
        | some use => .option arg use
        | none => .plain arg) :: tokens

def mistakeAt (level : Level) (spec : OptionSpec) (text : String) : Stop :=
  .mistake level ("argument " ++ spec.title ++ ": " ++ text)

def ignoredValue (level : Level) (spec : OptionSpec) (value : List Char) : Stop :=
  mistakeAt level spec ("ignored explicit argument " ++ quoted (.ofList value))

/-- Options given so far. There is no value for an option that takes none, and none for one whose
value was the divider, which never counts as a value. -/
abbrev Settings := List (OptionKey × Option String)

def Settings.has (settings : Settings) (key : OptionKey) : Bool :=
  settings.any fun setting => setting.1 = key

/-- What was given last for an option, if it was given at all. -/
def Settings.last? (settings : Settings) (key : OptionKey) : Option (Option String) :=
  settings.reverse.lookup key

/-- What one argument led to: options with their values, and whether the next argument was used up as
a value. -/
structure Intake where
  options : List (OptionSpec × Option String)
  usedNext : Bool := false

/-- The value of an option that comes in the same argument. -/
def attachedValue (value : List Char) : Option String :=
  if value = ['-', '-'] then none else some (.ofList value)

/-- An option without a value of its own takes the next argument if it needs one. -/
def takeNext (level : Level) (spec : OptionSpec) (next : Option Token) : Except Stop Intake :=
  if spec.valued then
    match next with
    | some (.plain text) => .ok { options := [(spec, some text)], usedNext := true }
    | _ => .error (mistakeAt level spec "expected one argument")
  else .ok { options := [(spec, none)] }

/-- What follows a single hyphen and the letter of an option: the value of the option, or more such
letters. One unknown letter spoils them all. -/
def takeCluster (level : Level) (next : Option Token) (spec : OptionSpec) :
    List Char → Except Stop Intake
  | [] => takeNext level spec next
  | c :: rest =>
    if spec.valued then .ok { options := [(spec, attachedValue (c :: rest))] }
    else
      match level.spellings.lookup (.ofList ['-', c]) with
      | none => .error (ignoredValue level spec (c :: rest))
      | some following => do
        let intake ← takeCluster level next following rest
        return { intake with options := (spec, none) :: intake.options }

/-- What an option leads to. -/
def OptionUse.take (level : Level) (next : Option Token) (use : OptionUse) (spec : OptionSpec) :
    Except Stop Intake :=
  match use.value with
  | none => takeNext level spec next
  | some value =>
    if spec.valued then .ok { options := [(spec, attachedValue value)] }
    else if value = [] ∨ "--".toList.isPrefixOf use.spelling.toList then
      .error (ignoredValue level spec value)
    else takeCluster level next spec value

/-- Acts on one option: some end the reading at once, others are kept unless they contradict one
given before. -/
def Settings.add (level : Level) (settings : Settings) (spec : OptionSpec)
    (value : Option String) : Except Stop Settings :=
  match spec.key with
  | .help => .error (.help level)
  | .version => .error .version
  | key =>
    match level.options.find? fun other => key.excludes other.key && settings.has other.key with
    | some other => .error (mistakeAt level spec ("not allowed with argument " ++ other.title))
    | none => .ok (settings ++ [(key, value)])

def Settings.addAll (level : Level) (settings : Settings) :
    List (OptionSpec × Option String) → Except Stop Settings
  | [] => .ok settings
  | (spec, value) :: rest => do
    (← settings.add level spec value).addAll level rest

/-- The arguments of a command as they are read. -/
structure Arguments where
  settings : Settings := []
  paths : Option (List String) := none
  strays : List String := []
  deriving DecidableEq, Repr

/-- A list without the first occurrence of the divider. -/
def dropDivider (texts : List String) : List String := texts.erase "--"

/-- Takes a run of values: the first run is the paths, later ones belong nowhere. -/
def Arguments.takeRun (arguments : Arguments) (run : List String) : Arguments :=
  match arguments.paths with
  | none => { arguments with paths := some (dropDivider run) }
  | some _ => { arguments with strays := arguments.strays ++ run }

def Token.isOption : Token → Bool
  | .option _ _ => true
  | _ => false

/-- Reads the arguments of a command, with their number as fuel. -/
def Arguments.read (level : Level) : Nat → Arguments → List Token → Except Stop Arguments
  | _, arguments, [] => .ok arguments
  | 0, arguments, _ => .ok arguments
  | fuel + 1, arguments, .option text use :: rest =>
    match use.spec with
    | none =>
      Arguments.read level fuel { arguments with strays := arguments.strays ++ [text] } rest
    | some spec => do
      let intake ← use.take level rest.head? spec
      let settings ← arguments.settings.addAll level intake.options
      Arguments.read level fuel { arguments with settings := settings }
        (if intake.usedNext then rest.tail else rest)
  | fuel + 1, arguments, token :: rest =>
    let tokens := token :: rest
    let run := tokens.takeWhile fun token => !token.isOption
    Arguments.read level fuel (arguments.takeRun (run.map Token.text)) (tokens.drop run.length)

/-- The paths to work on: the current directory unless some are given. -/
def Arguments.roots (arguments : Arguments) : List String :=
  match arguments.paths with
  | none | some [] => ["."]
  | some paths => paths

/-- A command line as read. -/
structure Invocation where
  settings : Settings
  call : Option (Command × Arguments)
  strays : List String
  deriving DecidableEq, Repr

def unknownCommand (name : String) : Stop :=
  .mistake .program ("argument command: invalid choice: " ++ quoted name ++ " (choose from " ++
    joinTexts ", " (Command.all.map fun command => quoted command.name) ++ ")")

/-- Reads a command and all that follows it. -/
def readCommand (settings : Settings) (strays : List String) (name : String) (args : List String) :
    Except Stop Invocation :=
  match Command.ofName? name with
  | none => .error (unknownCommand name)
  | some command => do
    let level := Level.command command
    let tokens ← level.tokens args
    let arguments ← Arguments.read level tokens.length {} tokens
    return ⟨settings, some (command, arguments), strays ++ arguments.strays⟩

/-- Reads the options in front of the command, and the command. A divider in front of it is taken for
its name. -/
def readProgram (settings : Settings) (strays : List String) :
    Nat → List Token → Except Stop Invocation
  | _, [] => .ok ⟨settings, none, strays⟩
  | 0, _ => .ok ⟨settings, none, strays⟩
  | fuel + 1, .option text use :: rest =>
    match use.spec with
    | none => readProgram settings (strays ++ [text]) fuel rest
    | some spec => do
      let intake ← use.take .program rest.head? spec
      let settings ← settings.addAll .program intake.options
      readProgram settings strays fuel (if intake.usedNext then rest.tail else rest)
  | _ + 1, [.divider] => .ok ⟨settings, none, strays ++ ["--"]⟩
  | _ + 1, token :: rest => readCommand settings strays token.text (rest.map Token.text)

/-- The command line as a whole. Arguments that belong nowhere are a mistake of the program's level. -/
def readCommandLine (args : List String) : Except Stop Invocation := do
  let tokens ← Level.program.tokens args
  let invocation ← readProgram [] [] tokens.length tokens
  if invocation.strays = [] then return invocation
  else
    .error (.mistake .program ("unrecognized arguments: " ++ joinTexts " " invocation.strays))

end ShellSurvey
