namespace ShellSurvey

/-- A set of characters, given by inclusive ranges of codes or by their complement. -/
structure CharSet where
  negated : Bool
  ranges : List (Nat × Nat)
  deriving DecidableEq, Repr

def CharSet.holds (set : CharSet) (c : Char) : Bool :=
  (set.ranges.any fun range => range.1 ≤ c.toNat && c.toNat ≤ range.2) != set.negated

def CharSet.only (c : Char) : CharSet := ⟨false, [(c.toNat, c.toNat)]⟩

def CharSet.except (c : Char) : CharSet := ⟨true, [(c.toNat, c.toNat)]⟩

/-- One step of a rule. -/
inductive Step where
  /-- One character of a set. -/
  | one (set : CharSet)
  /-- Any number of characters of a set. -/
  | many (set : CharSet)
  /-- Nothing, or at least one character that is no line feed and a slash: directories in front. -/
  | dirsAhead
  /-- Nothing, or a slash and at least one character that is no line feed: directories within. -/
  | dirsWithin
  /-- A slash, or the end of the path, one line feed at the end aside. -/
  | boundary
  deriving DecidableEq, Repr

def slash : CharSet := .only '/'

def notSlash : CharSet := .except '/'

def notLineFeed : CharSet := .except '\n'

/-- The steps that an optional step stands for when it is taken. -/
def Step.expansion : Step → List Step
  | .dirsAhead => [.one notLineFeed, .many notLineFeed, .one slash]
  | .dirsWithin => [.one slash, .one notLineFeed, .many notLineFeed]
  | _ => []

def Step.weight : Step → Nat
  | .dirsAhead => 4
  | .dirsWithin => 4
  | _ => 1

def stepsWeight (steps : List Step) : Nat := steps.foldr (·.weight + ·) 0

def atEnd (cs : List Char) : Bool := cs = [] || cs = ['\n']

/-- The steps can be taken one after the other from the front of the characters. -/
def stepsMatch : List Step → List Char → Bool
  | [], _ => true
  | .one set :: steps, cs =>
    match cs with
    | [] => false
    | c :: rest => set.holds c && stepsMatch steps rest
  | .many set :: steps, cs =>
    stepsMatch steps cs ||
      match cs with
      | [] => false
      | c :: rest => set.holds c && stepsMatch (.many set :: steps) rest
  | .dirsAhead :: steps, cs =>
    stepsMatch steps cs || stepsMatch (Step.dirsAhead.expansion ++ steps) cs
  | .dirsWithin :: steps, cs =>
    stepsMatch steps cs || stepsMatch (Step.dirsWithin.expansion ++ steps) cs
  | .boundary :: steps, cs =>
    (atEnd cs && stepsMatch steps cs) ||
      match cs with
      | [] => false
      | c :: rest => c = '/' && stepsMatch steps rest
termination_by steps cs => (stepsWeight steps, cs.length)
decreasing_by
  all_goals simp_wf
  all_goals simp [stepsWeight, Step.weight, Step.expansion, Prod.lex_def]
  all_goals omega

/-- How a rule looks at a path. -/
inductive Test where
  | anywhere (set : CharSet)
  | fromStart (steps : List Step)
  deriving DecidableEq, Repr

/-- A rule skips the paths it matches, or keeps them. -/
structure Rule where
  keeps : Bool
  test : Test
  deriving DecidableEq, Repr

def Rule.matchesPath (rule : Rule) (path : List Char) : Bool :=
  match rule.test with
  | .anywhere set => path.any set.holds
  | .fromStart steps => stepsMatch steps path

end ShellSurvey
