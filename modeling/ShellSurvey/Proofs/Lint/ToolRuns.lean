import ShellSurvey.Proofs.Lexicon.Namesakes
import ShellSurvey.Proofs.Walk.Names
import ShellSurvey.Rule.Validity

namespace ShellSurvey

/-- What would break a validation off: an interpreter that no tool validates, or a command whose program is
not there. -/
inductive ToolMishap where
  | noValidator (interpreter : String)
  | noProgram (command : List String)

/-- The program that must be at hand for an interpreter's scripts. -/
def requiredExecutable (interpreter : String) : Except ToolMishap String :=
  match Validator.forInterpreter? interpreter with
  | none => .error (.noValidator interpreter)
  | some validator => .ok (validator.executable interpreter)

theorem requiredExecutable_of_validator {interpreter : String} {validator : Validator}
    (known : Validator.forInterpreter? interpreter = some validator) :
    requiredExecutable interpreter = .ok (validator.executable interpreter) := by
  rw [requiredExecutable, known]

theorem isSome_forInterpreter?_iff {name : String} :
    (Validator.forInterpreter? name).isSome = true ↔ name ∈ validators.map Prod.fst := by
  rw [Validator.forInterpreter?, List.lookup_isSome_iff, List.mem_map]
  simp only [beq_iff_eq, @eq_comm _ name]

theorem requiredExecutable_ok_iff {interpreter : String} :
    (∃ executable, requiredExecutable interpreter = .ok executable) ↔
      interpreter ∈ validators.map Prod.fst := by
  rw [← isSome_forInterpreter?_iff, requiredExecutable]
  cases Validator.forInterpreter? interpreter <;> simp

/-- Every tool is called by the program that must be at hand, on the script. -/
theorem Validator.call_eq (validator : Validator) (interpreter path : String) :
    ∃ options, validator.call interpreter path =
      ⟨validator.executable interpreter,
        validator.executable interpreter :: (options ++ [path])⟩ := by
  cases validator with
  | shellcheck => exact ⟨["--shell=sh", "--severity=error"], rfl⟩
  | noExecution => exact ⟨["-n"], rfl⟩
  | compileOnly => exact ⟨["-c"], rfl⟩
  | lintOnly => exact ⟨["-l"], rfl⟩
  | byteCompile => exact ⟨["-m", "py_compile"], rfl⟩
  | gnuAwk => exact ⟨["--lint", "-f"], rfl⟩
  | gofmt => exact ⟨["-e"], rfl⟩

/-- A command that validates the script at a path, as it is called for some interpreter. -/
def ValidatesAt (command : List String) (path : String) : Prop :=
  ∃ interpreter validator, Validator.forInterpreter? interpreter = some validator ∧
    command = (validator.call interpreter path).command

/-- No word of a command holds a NUL but the path of its script. -/
theorem ValidatesAt.nulFree {command : List String} {path : String}
    (validates : ValidatesAt command path) (free : NulFree path) : ∀ word ∈ command, NulFree word := by
  obtain ⟨interpreter, validator, known, rfl⟩ := validates
  have table : ∀ entry ∈ validators, NulFree entry.1 := by decide +kernel
  have named : NulFree interpreter := table _ (mem_of_lookup known)
  have fixed : NulFree "shellcheck" ∧ NulFree "--shell=sh" ∧ NulFree "--severity=error" ∧
      NulFree "-n" ∧ NulFree "-c" ∧ NulFree "-l" ∧ NulFree "-m" ∧ NulFree "py_compile" ∧
      NulFree "--lint" ∧ NulFree "-f" ∧ NulFree "gofmt" ∧ NulFree "-e" := by decide
  cases validator <;> simp [Validator.call, named, free, fixed]

/-- What is shown of a run that failed: its errors, or else its output, without the blanks around them. -/
def ToolAnswer.complaint (answer : ToolAnswer) : String :=
  .ofList (trim (if answer.err = "" then answer.out else answer.err).toList)

theorem ToolAnswer.outcome_eq (answer : ToolAnswer) (tool : String) :
    answer.outcome tool = if answer.code = 0 then .valid else .failed (.rejected tool answer.complaint) :=
  rfl

section

variable (world : World) (record : Record)

/-- The command on a script is run by the program that must be at hand, and goes some way. -/
structure Runs (executable : String) (command : List String) (run : ToolRun) : Prop where
  required : requiredExecutable record.interpreterName = .ok executable
  called : ∃ options, command = executable :: (options ++ [record.path])
  validates : ∃ validator, Validator.forInterpreter? record.interpreterName = some validator ∧
    command = (validator.call record.interpreterName record.path).command
  launched : world.launch executable command = some run

/-- The courses that a validation can take, with what is found of a POSIX script on each. -/
inductive ValidationCourse : Validation → List Finding → Prop where
  | unknown (unlisted : record.interpreterName ∉ validators.map Prod.fst) :
      ValidationCourse
        ⟨none, .failed (.unknownInterpreter (.str record.interpreterName) record.path), false⟩
        [Kinds.unknownValidator.inFileWith [("interpreter", .str record.interpreterName)] record.path]
  | missing {executable : String}
      (required : requiredExecutable record.interpreterName = .ok executable)
      (missing : world.tools executable = none) :
      ValidationCourse ⟨none, .failed (.toolMissing executable record.path), false⟩
        [Kinds.interpreterNotFound.inFileWith [("executable", .str executable)] record.path]
  | accepted {executable : String} {command : List String} {answer : ToolAnswer}
      (runs : Runs world record executable command (.answered answer)) (success : answer.code = 0) :
      ValidationCourse ⟨some command, .valid, answer.removesScript⟩ []
  | rejected {executable : String} {command : List String} {answer : ToolAnswer}
      (runs : Runs world record executable command (.answered answer)) (failure : answer.code ≠ 0) :
      ValidationCourse
        ⟨some command, .failed (.rejected executable answer.complaint), answer.removesScript⟩
        [Kinds.rejectedScript.inFileWith
          [("interpreter", .str executable), ("output", .str answer.complaint)] record.path]
  | garbled {executable : String} {command : List String} {malformation : Malformation}
      {removesScript : Bool}
      (runs : Runs world record executable command (.garbled malformation removesScript)) :
      ValidationCourse ⟨some command, .interrupted (.garbled malformation), removesScript⟩ []
  | unlaunched {executable : String} {command : List String} {refusal : Refusal}
      (runs : Runs world record executable command (.unlaunched refusal)) :
      ValidationCourse ⟨none, .interrupted (.refused refusal), false⟩ []

variable {world record}

theorem Runs.validatesAt {executable : String} {command : List String} {run : ToolRun}
    (runs : Runs world record executable command run) : ValidatesAt command record.path :=
  ⟨record.interpreterName, runs.validates⟩

/-- What a validation comes to where its command is run. -/
theorem Runs.validate_eq {executable : String} {command : List String} {run : ToolRun}
    (runs : Runs world record executable command run) :
    validate world record = run.validation ⟨executable, command⟩ := by
  obtain ⟨validator, known, rfl⟩ := runs.validates
  obtain ⟨options, called⟩ := validator.call_eq record.interpreterName record.path
  have required := requiredExecutable_of_validator known
  cases required.symm.trans runs.required
  have launched := runs.launched
  rw [validate, known]
  simp only [launched]
  rw [called]

/-- A run leads to one of the courses on which a command was called for. -/
theorem Runs.course {executable : String} {command : List String} {run : ToolRun}
    (runs : Runs world record executable command run) :
    let validation := run.validation ⟨executable, command⟩
    ∃ findings, ValidationCourse world record validation findings ∧
      validation.check record.path =
        ⟨findings, validation.command, validation.removed, validation.outcome.cause?⟩ := by
  cases run with
  | answered answer =>
    rw [ToolRun.validation, ToolAnswer.outcome_eq]
    by_cases success : answer.code = 0
    · rw [if_pos success]
      exact ⟨_, .accepted runs success, rfl⟩
    · rw [if_neg success]
      exact ⟨_, .rejected runs success, rfl⟩
  | garbled malformation removesScript => exact ⟨_, .garbled runs, rfl⟩
  | unlaunched refusal => exact ⟨_, .unlaunched runs, rfl⟩

/-- A validation takes one of these courses, and what is found follows from the course. -/
theorem validation_along (world : World) (record : Record) :
    ∃ findings, ValidationCourse world record (validate world record) findings ∧
      (validate world record).check record.path =
        ⟨findings, (validate world record).command, (validate world record).removed,
          (validate world record).outcome.cause?⟩ := by
  cases known : Validator.forInterpreter? record.interpreterName with
  | none =>
    have unlisted : record.interpreterName ∉ validators.map Prod.fst := by
      rw [← isSome_forInterpreter?_iff, known]
      exact Bool.false_ne_true
    have validation : validate world record =
        ⟨none, .failed (.unknownInterpreter (.str record.interpreterName) record.path), false⟩ := by
      rw [validate, known]
    rw [validation]
    exact ⟨_, .unknown unlisted, rfl⟩
  | some validator =>
    have required := requiredExecutable_of_validator known
    obtain ⟨options, called⟩ := validator.call_eq record.interpreterName record.path
    cases launched : world.launch (validator.executable record.interpreterName)
        (validator.call record.interpreterName record.path).command with
    | none =>
      have validation : validate world record =
          ⟨none, .failed (.toolMissing (validator.executable record.interpreterName) record.path),
            false⟩ := by
        rw [validate, known]
        simp only [launched]
      rw [validation]
      exact ⟨_, .missing required (Option.map_eq_none_iff.mp launched), rfl⟩
    | some run =>
      have runs : Runs world record (validator.executable record.interpreterName)
          (validator.call record.interpreterName record.path).command run :=
        ⟨required, ⟨options, congrArg ToolCall.command called⟩, ⟨validator, known, rfl⟩, launched⟩
      rw [runs.validate_eq]
      exact runs.course

/-- Whether a tool is known does not depend on which tools can be found. -/
theorem ValidationCourse.unknown_iff {validation : Validation} {findings : List Finding}
    (course : ValidationCourse world record validation findings) :
    (∃ interpreter path, validation.outcome = .failed (.unknownInterpreter interpreter path)) ↔
      record.interpreterName ∉ validators.map Prod.fst := by
  cases course with
  | unknown unlisted => exact ⟨fun _ => unlisted, fun _ => ⟨_, _, rfl⟩⟩
  | missing required _ =>
    have listed := requiredExecutable_ok_iff.mp ⟨_, required⟩
    exact ⟨nofun, fun unlisted => absurd listed unlisted⟩
  | accepted runs _ | rejected runs _ | garbled runs | unlaunched runs =>
    have listed := requiredExecutable_ok_iff.mp ⟨_, runs.required⟩
    exact ⟨nofun, fun unlisted => absurd listed unlisted⟩

end

/-- How a run breaks a validation off, if it does. -/
def ToolRun.cause? : ToolRun → Option Interruption
  | .answered _ => none
  | .garbled malformation _ => some (.garbled malformation)
  | .unlaunched refusal => some (.refused refusal)

theorem ToolRun.cause?_validation (run : ToolRun) (call : ToolCall) :
    (run.validation call).outcome.cause? = run.cause? := by
  cases run with
  | answered answer =>
    rw [validation, ToolAnswer.outcome_eq]
    dsimp only
    split <;> rfl
  | garbled malformation removesScript => rfl
  | unlaunched refusal => rfl

/-- A check of validity is broken off exactly by the run of the one command on a POSIX script. -/
theorem checkValidity_broken_iff {world : World} {record : Record} {cause : Interruption} :
    (checkValidity world record).broken = some cause ↔ record.posix = true ∧
      ∃ executable command run, Runs world record executable command run ∧
        run.cause? = some cause := by
  unfold checkValidity
  split
  · next posix =>
    rw [and_iff_right posix]
    constructor
    · obtain ⟨findings, course, checked⟩ := validation_along world record
      rw [checked]
      generalize validate world record = validation at course
      intro broken
      cases course with
      | unknown | missing | accepted | rejected => cases broken
      | garbled runs | unlaunched runs => exact ⟨_, _, _, runs, broken⟩
    · rintro ⟨executable, command, run, runs, broken⟩
      rw [Validation.check, runs.validate_eq, ToolRun.cause?_validation,
        broken]
  · next other => exact ⟨nofun, fun both => absurd both.1 other⟩

/-- Every tool answers a command of words without a NUL. -/
def World.ToolsAnswer (world : World) : Prop :=
  ∀ program tool, world.tools program = some tool → ∀ disk command,
    (∀ word ∈ command, NulFree word) → ∃ answer, tool disk command = .answered answer

section

variable {world : World} (answers : world.ToolsAnswer) {record : Record} (free : NulFree record.path)
include answers free

theorem Runs.answered {executable : String} {command : List String} {run : ToolRun}
    (runs : Runs world record executable command run) : ∃ answer, run = .answered answer := by
  obtain ⟨tool, found, rfl⟩ := Option.map_eq_some_iff.mp runs.launched
  exact answers executable tool found world.disk command (runs.validatesAt.nulFree free)

/-- A check of validity is not broken off if the tools answer and the path holds no NUL. -/
theorem checkValidity_answered : (checkValidity world record).broken = none := by
  refine Option.eq_none_iff_forall_ne_some.mpr fun cause broken => ?_
  obtain ⟨_, executable, command, run, runs, breaks⟩ := checkValidity_broken_iff.mp broken
  obtain ⟨answer, rfl⟩ := runs.answered answers free
  cases breaks

end

end ShellSurvey
