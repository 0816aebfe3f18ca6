import ShellSurvey.CommandLine.Run

namespace ShellSurvey

/-- Arguments with one more setting in front of the others. -/
def Arguments.first (setting : OptionKey × Option String) (arguments : Arguments) : Arguments :=
  { arguments with settings := setting :: arguments.settings }

/-- No option of a lint excludes another one. -/
theorem Settings.add_lint (settings : Settings) (spec : OptionSpec) (value : Option String) :
    settings.add (.command .lint) spec value =
      match spec.key with
      | .help => .error (.help (.command .lint))
      | .version => .error .version
      | key => .ok (settings ++ [(key, value)]) := by
  unfold add
  cases spec.key <;>
    simp [Level.options, helpOption, valuedOption, flagOption, OptionKey.excludes]

theorem Settings.addAll_first (setting : OptionKey × Option String) (settings : Settings)
    (options : List (OptionSpec × Option String)) :
    Settings.addAll (.command .lint) (setting :: settings) options =
      (settings.addAll (.command .lint) options).map (setting :: ·) := by
  induction options generalizing settings with
  | nil => rfl
  | cons option rest ih =>
    obtain ⟨spec, value⟩ := option
    have added : Settings.add (.command .lint) (setting :: settings) spec value =
        (settings.add (.command .lint) spec value).map (setting :: ·) := by
      rw [add_lint, add_lint]
      cases spec.key <;> rfl
    rw [addAll, addAll, added]
    cases settings.add (.command .lint) spec value with
    | error stop => rfl
    | ok settings => exact ih settings

theorem Arguments.read_first (setting : OptionKey × Option String) (fuel : Nat)
    (arguments : Arguments) (tokens : List Token) :
    Arguments.read (.command .lint) fuel (arguments.first setting) tokens =
      (Arguments.read (.command .lint) fuel arguments tokens).map (first setting) := by
  induction fuel generalizing arguments tokens with
  | zero => cases tokens <;> rfl
  | succ fuel ih =>
    cases tokens with
    | nil => rfl
    | cons token rest =>
      have taken (run : List String) :
          (arguments.first setting).takeRun run = (arguments.takeRun run).first setting := by
        unfold takeRun first
        cases arguments.paths <;> rfl
      cases token with
      | plain text | divider =>
        unfold Arguments.read
        simp only [taken]
        exact ih _ _
      | option text use =>
        rw [Arguments.read, Arguments.read]
        cases use.spec with
        | none => exact ih { arguments with strays := arguments.strays ++ [text] } rest
        | some spec =>
          dsimp only
          cases use.take (.command .lint) rest.head? spec with
          | error stop => rfl
          | ok intake =>
            have added := Settings.addAll_first setting arguments.settings intake.options
            simp only [bind, Except.bind, first, added]
            cases arguments.settings.addAll (.command .lint) intake.options with
            | error stop => rfl
            | ok settings => exact ih { arguments with settings := settings } _

/-- A lint that is asked for the rule on modulinos too. -/
def Invocation.withModulino (invocation : Invocation) : Invocation :=
  { invocation with
    call := invocation.call.map fun (command, arguments) =>
      (command, arguments.first (.modulino, none)) }

theorem Level.tokens_cons {level : Level} {arg : String} (noDivider : arg ≠ "--")
    {use : Option OptionUse} (recognised : level.recognise arg = .ok use) (rest : List String) :
    level.tokens (arg :: rest) =
      (level.tokens rest).map (use.elim (.plain arg) (.option arg ·) :: ·) := by
  rw [tokens, if_neg noDivider, recognised]
  cases use <;> cases level.tokens rest <;> rfl

/-- As the first argument of a lint the flag becomes its first setting. -/
theorem readCommand_modulino (settings : Settings) (args : List String) :
    readCommand settings [] "lint" ("--modulino" :: args) =
      (readCommand settings [] "lint" args).map Invocation.withModulino := by
  have recognised : (Level.command .lint).recognise "--modulino" =
      .ok (some { spec := some (flagOption .modulino "--modulino"), spelling := "--modulino" }) := rfl
  have named : Command.ofName? "lint" = some .lint := rfl
  unfold readCommand
  rw [named]
  dsimp only
  rw [Level.tokens_cons (by decide) recognised]
  cases (Level.command .lint).tokens args with
  | error stop => rfl
  | ok rest =>
    have begun : Arguments.read (.command .lint) (rest.length + 1) {}
        (.option "--modulino"
          { spec := some (flagOption .modulino "--modulino"), spelling := "--modulino" } :: rest) =
        Arguments.read (.command .lint) rest.length (Arguments.first (.modulino, none) {}) rest := rfl
    have read := begun.trans (Arguments.read_first (.modulino, none) rest.length {} rest)
    simp only [Except.map, bind, Except.bind, Option.elim, List.length_cons, read]
    cases Arguments.read (.command .lint) rest.length {} rest <;> rfl

/-- The options of the program in front of a command. -/
def programFlags (verbose : Bool) : List String := if verbose then ["-v"] else []

/-- The tokens of a lint are read as a lint, with its arguments as texts. -/
theorem readCommandLine_lint (verbose : Bool) (args : List String) :
    readCommandLine (programFlags verbose ++ "lint" :: args) = (do
      let tokens ← Level.program.tokens args
      let invocation ←
        readCommand (if verbose then [(.verbose, none)] else []) [] "lint" (tokens.map Token.text)
      if invocation.strays = [] then return invocation
      else
        .error (.mistake .program ("unrecognized arguments: " ++ joinTexts " " invocation.strays))) := by
  have option : Level.program.recognise "-v" = .ok (some
      { spec := some { key := .verbose, spellings := ["-v", "--verbose"] }, spelling := "-v" }) := rfl
  have name : Level.program.recognise "lint" = .ok none := rfl
  unfold readCommandLine
  cases verbose with
  | false =>
    rw [programFlags, if_neg Bool.false_ne_true, List.nil_append,
      Level.tokens_cons (by decide) name]
    cases Level.program.tokens args <;> rfl
  | true =>
    rw [programFlags, if_pos rfl, List.singleton_append, Level.tokens_cons (by decide) option,
      Level.tokens_cons (by decide) name]
    cases Level.program.tokens args <;> rfl

/-- The flag in front of the arguments of a lint asks for the rule on modulinos, and changes nothing else
about how they are read. -/
theorem readCommandLine_modulino (verbose : Bool) (args : List String) :
    readCommandLine (programFlags verbose ++ "lint" :: "--modulino" :: args) =
      (readCommandLine (programFlags verbose ++ "lint" :: args)).map Invocation.withModulino := by
  have foreign : Level.program.recognise "--modulino" =
      .ok (some { spec := none, spelling := "--modulino" }) := rfl
  rw [readCommandLine_lint, readCommandLine_lint, Level.tokens_cons (by decide) foreign]
  cases Level.program.tokens args with
  | error stop => rfl
  | ok tokens =>
    have read := readCommand_modulino (if verbose then [(.verbose, none)] else [])
      (tokens.map Token.text)
    simp only [Except.map, bind, Except.bind, List.map_cons, Option.elim, Token.text, read]
    cases readCommand (if verbose then [(.verbose, none)] else []) [] "lint"
        (tokens.map Token.text) with
    | error stop => rfl
    | ok invocation =>
      dsimp only
      by_cases strays : invocation.strays = []
      · rw [if_pos strays, if_pos (show invocation.withModulino.strays = [] from strays)]
        rfl
      · rw [if_neg strays, if_neg (show invocation.withModulino.strays ≠ [] from strays)]
        rfl

end ShellSurvey
