import ShellSurvey.Finding.Folded

namespace ShellSurvey

/-- Findings, as they are by now, and lists that refer to them by number. What becomes of a finding is seen
in every list that holds it. -/
structure Holdings where
  finding : Nat → Finding
  held : Nat → List Nat

/-- The findings in a list. -/
def Holdings.view (holdings : Holdings) (list : Nat) : List Finding :=
  (holdings.held list).map holdings.finding

def Holdings.put (holdings : Holdings) (number : Nat) (finding : Finding) : Holdings :=
  { holdings with
    finding := fun other => if other = number then finding else holdings.finding other }

def Holdings.hold (holdings : Holdings) (list : Nat) (numbers : List Nat) : Holdings :=
  { holdings with held := fun other => if other = list then numbers else holdings.held other }

/-- Adds a finding at the end of a list. What repeats the last finding there is folded into it. -/
def Holdings.append (holdings : Holdings) (list number : Nat) : Except LocationClash Holdings :=
  let finding := holdings.finding number
  match (holdings.held list).getLast? with
  | none => .ok (holdings.hold list [number])
  | some last =>
    if last = number ∨ (holdings.finding last).repeats finding then
      ((holdings.finding last).absorb finding).map (holdings.put last)
    else .ok (holdings.hold list (holdings.held list ++ [number]))

/-- Adds findings one by one, up to the first that cannot be folded. -/
def Holdings.extend (holdings : Holdings) (list : Nat) :
    List Nat → Holdings × Option LocationClash
  | [] => (holdings, none)
  | number :: rest =>
    match holdings.append list number with
    | .ok more => more.extend list rest
    | .error clash => (holdings, some clash)

/-- Adds the findings of a list from a position on, one a round, as long as it has more by then and they can
be folded. There is no result if that takes further rounds. -/
def Holdings.extendFrom (holdings : Holdings) (list other position : Nat) :
    Nat → Option (Holdings × Option LocationClash)
  | 0 => none
  | rounds + 1 =>
    match (holdings.held other)[position]? with
    | none => some (holdings, none)
    | some number =>
      match holdings.append list number with
      | .ok more => more.extendFrom list other (position + 1) rounds
      | .error clash => some (holdings, some clash)

/-- Adds the findings of another list. -/
def Holdings.extendList (holdings : Holdings) (list other : Nat) :
    Holdings × Option LocationClash := holdings.extend list (holdings.held other)

/-- One more place for a finding. -/
def Holdings.locate (holdings : Holdings) (number : Nat) (place : Location) :
    Except LocationClash Holdings :=
  ((holdings.finding number).locate place).map (holdings.put number)

/-- A place in a list of some length, counted from its end if negative. -/
def placeIn? (length : Nat) (index : Int) : Option Nat :=
  let place := if index < 0 then index + length else index
  if 0 ≤ place ∧ place < length then some place.toNat else none

/-- Why a finding in a list gets no further place. -/
inductive LocateFlaw where
  | noSuchFinding
  | clash (cause : LocationClash)
  deriving DecidableEq, Repr

def LocateFlaw.message : LocateFlaw → String
  | .noSuchFinding => "list index out of range"
  | .clash cause => cause.message

/-- One more place for the finding at an index of a list. -/
def Holdings.locateAt (holdings : Holdings) (list : Nat) (index : Int) (place : Location) :
    Except LocateFlaw Holdings :=
  match (placeIn? (holdings.held list).length index).bind fun position =>
    (holdings.held list)[position]? with
  | none => .error .noSuchFinding
  | some number => (holdings.locate number place).mapError .clash

/-- What is done to lists of findings: one is extended, be it by a single finding, by some, or by those of
another list, or a finding gets a further place. -/
inductive ListStep where
  | extend (list : Nat) (numbers : List Nat)
  | extendList (list other : Nat) (apart : other ≠ list)
  | locate (number : Nat) (place : Location)

/-- The findings and lists after a step. What cannot be added, or placed, leaves them as they are by
then. -/
def ListStep.run (holdings : Holdings) : ListStep → Holdings
  | .extend list numbers => (holdings.extend list numbers).1
  | .extendList list other _ => (holdings.extendList list other).1
  | .locate number place => (holdings.locate number place).toOption.getD holdings

def Holdings.run (holdings : Holdings) (steps : List ListStep) : Holdings :=
  steps.foldl ListStep.run holdings

end ShellSurvey
