import ShellSurvey.Text.CaseTable

namespace ShellSurvey

def inRanges (ranges : List (Nat × Nat)) (code : Nat) : Bool :=
  ranges.any fun range => range.1 ≤ code && code ≤ range.2

def isCaseIgnorable (c : Char) : Bool := inRanges caseIgnorableRanges c.toNat

def isCasedLetter (c : Char) : Bool := inRanges casedRanges c.toNat

/-- The small form of a character whose form does not depend on its neighbours. -/
def smallForm (c : Char) : List Char :=
  if c.toNat < 0x80 then [c.toLower]
  else if c = 'İ' then ['i', Char.ofNat 0x307]
  else
    match caseRuns.find? (·.covers c.toNat) with
    | some run => [Char.ofNat (run.small + (c.toNat - run.first))]
    | none => [c]

/-- A letter with case stands next, marks and stops aside. -/
def meetsLetter (cs : List Char) : Bool :=
  match cs.dropWhile isCaseIgnorable with
  | [] => false
  | c :: _ => isCasedLetter c

/-- The lower case of `rest`, where `before` is what precedes it, nearest first. -/
def lowerFrom (before : List Char) : List Char → List Char
  | [] => []
  | c :: rest =>
    (if c = 'Σ' then [if meetsLetter before && !meetsLetter rest then 'ς' else 'σ']
      else smallForm c) ++ lowerFrom (c :: before) rest

def lowerCase (text : String) : String := .ofList (lowerFrom [] text.toList)

end ShellSurvey
