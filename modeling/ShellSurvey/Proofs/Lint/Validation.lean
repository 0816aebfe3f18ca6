import ShellSurvey.Proofs.Lint.Gates

namespace ShellSurvey

/-- Runs a command by the program that its first word names. -/
def World.execute (world : World) (command : List String) : Except ToolMishap ToolRun :=
  match command.head?.bind fun program => world.launch program command with
  | some run => .ok run
  | none => .error (.noProgram command)

def validateStrictly (world : World) (record : Record) : Except ToolMishap Validation :=
  let name := record.interpreterName
  match Validator.forInterpreter? name with
  | none => .ok ⟨none, .failed (.unknownInterpreter (.str name) record.path), false⟩
  | some validator => do
    let executable ← requiredExecutable name
    if (world.tools executable).isNone then
      return ⟨none, .failed (.toolMissing executable record.path), false⟩
    else
      let call := validator.call name record.path
      let run ← world.execute call.command
      return run.validation call

/-- The finding on a missing tool asks once more which program it is. -/
def checkValidityStrictly (world : World) (record : Record) : Except ToolMishap ValidityCheck :=
  if record.posix then do
    let validation ← validateStrictly world record
    let findings ←
      match validation.outcome with
      | .failed (.toolMissing _ _) => do
        let executable ← requiredExecutable record.interpreterName
        pure [Kinds.interpreterNotFound.inFileWith [("executable", .str executable)] record.path]
      | outcome => pure (outcome.findings record.path)
    return ⟨findings, validation.command, validation.removed, validation.outcome.cause?⟩
  else return ⟨[], none, false, none⟩

section

variable {world : World} {record : Record}

theorem validateStrictly_eq (world : World) (record : Record) :
    validateStrictly world record = .ok (validate world record) := by
  unfold validateStrictly validate
  dsimp only
  cases known : Validator.forInterpreter? record.interpreterName with
  | none => rfl
  | some validator =>
    simp only [requiredExecutable_of_validator known, bind, Except.bind]
    obtain ⟨options, called⟩ := validator.call_eq record.interpreterName record.path
    cases found : world.tools (validator.executable record.interpreterName) with
    | none =>
      simp only [World.launch, found]
      rfl
    | some tool =>
      have launched (command : List String) : world.execute
          (validator.executable record.interpreterName :: command) = .ok (tool world.disk
            (validator.executable record.interpreterName :: command)) := by
        simp only [World.execute, World.launch, List.head?_cons, Option.bind_some, found,
          Option.map_some]
      simp only [called, launched, World.launch, found]
      rfl

/-- The program that is missing is the one that is asked for again. -/
theorem checkValidityStrictly_eq (world : World) (record : Record) :
    checkValidityStrictly world record = .ok (checkValidity world record) := by
  unfold checkValidityStrictly checkValidity
  split
  · obtain ⟨findings, course, _⟩ := validation_along world record
    rw [validateStrictly_eq]
    generalize validate world record = validation at course
    cases course with
    | missing required missing =>
      simp only [bind, Except.bind, required]
      rfl
    | unknown | accepted | rejected | garbled | unlaunched => rfl
  · rfl

theorem Runs.found {executable : String} {command : List String} {run : ToolRun}
    (runs : Runs world record executable command run) : world.tools executable ≠ none := by
  intro absent
  have launched := runs.launched
  rw [World.launch, absent] at launched
  cases launched

variable {validation : Validation} {findings : List Finding}

theorem ValidationCourse.missing_iff (course : ValidationCourse world record validation findings) :
    (∃ executable path, validation.outcome = .failed (.toolMissing executable path)) ↔
      ∃ executable, requiredExecutable record.interpreterName = .ok executable ∧
        world.tools executable = none := by
  cases course with
  | unknown unlisted =>
    exact ⟨nofun, fun ⟨_, required, _⟩ => absurd (requiredExecutable_ok_iff.mp ⟨_, required⟩) unlisted⟩
  | missing required absent => exact ⟨fun _ => ⟨_, required, absent⟩, fun _ => ⟨_, _, rfl⟩⟩
  | accepted runs _ | rejected runs _ | garbled runs | unlaunched runs =>
    refine ⟨nofun, ?_⟩
    rintro ⟨executable, required, absent⟩
    cases runs.required.symm.trans required
    exact absurd absent runs.found

theorem validate_rejected_iff :
    (∃ tool output, (validate world record).outcome = .failed (.rejected tool output)) ↔
      ∃ executable command answer, Runs world record executable command (.answered answer) ∧
        answer.code ≠ 0 := by
  constructor
  · obtain ⟨findings, course, _⟩ := validation_along world record
    generalize validate world record = validation at course
    rintro ⟨tool, output, outcome⟩
    cases course with
    | unknown | missing | accepted | garbled | unlaunched => cases outcome
    | rejected runs failure => exact ⟨_, _, _, runs, failure⟩
  · rintro ⟨executable, command, answer, runs, failure⟩
    rw [runs.validate_eq]
    refine ⟨executable, answer.complaint, ?_⟩
    rw [ToolRun.validation, ToolAnswer.outcome_eq, if_neg failure]

/-- A validation is broken off by the run of its command, and by nothing else. -/
theorem validate_interrupted_iff {cause : Interruption} :
    (validate world record).outcome = .interrupted cause ↔
      ∃ executable command run, Runs world record executable command run ∧
        run.cause? = some cause := by
  constructor
  · obtain ⟨findings, course, _⟩ := validation_along world record
    generalize validate world record = validation at course
    intro outcome
    cases course with
    | unknown | missing | accepted | rejected => cases outcome
    | garbled runs | unlaunched runs =>
      cases outcome
      exact ⟨_, _, _, runs, rfl⟩
  · rintro ⟨executable, command, run, runs, broken⟩
    rw [runs.validate_eq]
    cases run with
    | answered => cases broken
    | garbled | unlaunched =>
      cases broken
      rfl

/-- A validation takes one of six courses. It fails without running anything if no tool is known for the
interpreter, or if the tool that is required is not there; otherwise it runs one command, of that tool and
on the script, and fails if the tool does, unless the run breaks it off: the command is refused, so that
nothing is run, or the tool writes what is no text. The rule on validity makes exactly one finding out of
each failure, and only such a run breaks it off. -/
theorem validation_course (world : World) (record : Record) :
    (∃ findings, ValidationCourse world record (validate world record) findings ∧
        checkValidity world record =
          if record.posix then
            ⟨findings, (validate world record).command, (validate world record).removed,
              (validate world record).outcome.cause?⟩
          else ⟨[], none, false, none⟩) ∧
      ((∃ executable, requiredExecutable record.interpreterName = .ok executable) ↔
        record.interpreterName ∈ validators.map Prod.fst) ∧
      ((∃ interpreter path,
          (validate world record).outcome = .failed (.unknownInterpreter interpreter path)) ↔
        record.interpreterName ∉ validators.map Prod.fst) ∧
      ((∃ executable path, (validate world record).outcome = .failed (.toolMissing executable path)) ↔
        ∃ executable, requiredExecutable record.interpreterName = .ok executable ∧
          world.tools executable = none) ∧
      ((∃ tool output, (validate world record).outcome = .failed (.rejected tool output)) ↔
        ∃ executable command answer, Runs world record executable command (.answered answer) ∧
          answer.code ≠ 0) ∧
      (∀ cause, (validate world record).outcome = .interrupted cause ↔
        ∃ executable command run, Runs world record executable command run ∧
          run.cause? = some cause) ∧
      validateStrictly world record = .ok (validate world record) ∧
      checkValidityStrictly world record = .ok (checkValidity world record) := by
  obtain ⟨findings, course, checked⟩ := validation_along world record
  refine ⟨⟨findings, course, ?_⟩, requiredExecutable_ok_iff, course.unknown_iff,
    course.missing_iff, validate_rejected_iff, fun cause => validate_interrupted_iff,
    validateStrictly_eq world record, checkValidityStrictly_eq world record⟩
  rw [checkValidity, checked]

end

def bashScript : Record := { path := "a", posix := true, interpreter := .known "bash" }

/-- A world where a program can be found that the system will not execute. -/
def unexecutable : World := .ofTool fun _ _ => .unlaunched (.failed (.system .accessDenied "bash"))

/-- The validation of a script for bash is broken off if its tool has written what is no text, or its
program cannot be executed, and that of a script whose path holds a NUL is broken off too: it is neither
valid, nor is anything found. A record whose interpreter is a collection cannot be validated at all. -/
theorem validation_breaks :
    (validate garbling bashScript =
        ⟨some ["bash", "-n", "a"], .interrupted (.garbled strayByte), false⟩ ∧
      checkValidity garbling bashScript =
        ⟨[], some ["bash", "-n", "a"], false, some (.garbled strayByte)⟩) ∧
    (validate unexecutable bashScript =
        ⟨none, .interrupted (.refused (.failed (.system .accessDenied "bash"))), false⟩ ∧
      checkValidity unexecutable bashScript =
        ⟨[], none, false, some (.refused (.failed (.system .accessDenied "bash")))⟩) ∧
    (validate strict tornScript = ⟨none, .interrupted (.refused .nulInPath), false⟩ ∧
      checkValidity strict tornScript = ⟨[], none, false, some (.refused .nulInPath)⟩) ∧
    LooseRecord.validate lenient { bashScript.loosen with interpreter := .known (.arr []) } =
      .error (.noKey "list") := by
  have bash : Validator.forInterpreter? bashScript.interpreterName = some .noExecution := by decide
  have sh : Validator.forInterpreter? tornScript.interpreterName = some .shellcheck := by decide
  unfold checkValidity validate
  simp only [bash, sh]
  exact ⟨⟨rfl, rfl⟩, ⟨rfl, rfl⟩, ⟨rfl, rfl⟩, rfl⟩

end ShellSurvey
