import ShellSurvey.Pattern.Basic
import ShellSurvey.Pattern.Library
import ShellSurvey.Text.Blank
import ShellSurvey.Text.Split

namespace ShellSurvey

/-- What reading a segment came to. A bracket that is never closed makes the whole line void. -/
inductive GlobFlaw where
  | danglingEscape
  | openBracket
  deriving DecidableEq, Repr

/-- An item of a bracket: one character, or a range between two. -/
def bracketRanges : Nat → List Char → List (Nat × Nat)
  | 0, _ => []
  | _ + 1, [] => []
  | fuel + 1, low :: '-' :: high :: rest => (low.toNat, high.toNat) :: bracketRanges fuel rest
  | fuel + 1, c :: rest => (c.toNat, c.toNat) :: bracketRanges fuel rest

/-- The inside of a bracket and what follows it, given the text after the opening one. A closing
bracket right at the start, a negation aside, stands for itself. -/
def splitBracket (cs : List Char) : Option (List Char × List Char) :=
  let upToClosing (start rest : List Char) : Option (List Char × List Char) :=
    match rest.dropWhile (· ≠ ']') with
    | [] => none
    | _ :: after => some (start ++ rest.takeWhile (· ≠ ']'), after)
  match cs with
  | ']' :: rest => upToClosing [']'] rest
  | rest => upToClosing [] rest

/-- A bracket, given the text after its opening. -/
def readBracket (cs : List Char) : Option (CharSet × List Char) :=
  let (negated, body) :=
    match cs with
    | '!' :: rest => (true, rest)
    | '^' :: rest => (true, rest)
    | rest => (false, rest)
  (splitBracket body).map fun (inside, after) =>
    (⟨negated, bracketRanges inside.length inside⟩, after)

/-- The steps of a glob, with the text's length as fuel. -/
def globStepsWithin : Nat → List Char → Except GlobFlaw (List Step)
  | _, [] => .ok []
  | 0, _ => .ok []
  | fuel + 1, c :: rest =>
    if c = '\\' then
      match rest with
      | [] => .error .danglingEscape
      | escaped :: rest => (globStepsWithin fuel rest).map (.one (.only escaped) :: ·)
    else if c = '*' then (globStepsWithin fuel rest).map (.many notSlash :: ·)
    else if c = '?' then (globStepsWithin fuel rest).map (.one notSlash :: ·)
    else if c = '[' then
      match readBracket rest with
      | none => .error .openBracket
      | some (set, rest) => (globStepsWithin fuel rest).map (.one set :: ·)
    else (globStepsWithin fuel rest).map (.one (.only c) :: ·)

def globSteps (segment : List Char) : Except GlobFlaw (List Step) :=
  globStepsWithin segment.length segment

abbrev Segment := List Char

/-- The segment for any directories. -/
def anyDepth : Segment := ['*', '*']

/-- The segment for any one name. -/
def anyName : Segment := ['*']

/-- Leaves one of several neighbouring segments for any directories. -/
def mergeDepths : List Segment → List Segment
  | [] => []
  | segment :: rest =>
    if segment = anyDepth ∧ rest.head? = some anyDepth then mergeDepths rest
    else segment :: mergeDepths rest

/-- A leading slash only ties the pattern to the top, and is dropped; without one, a pattern of one
segment applies at any depth. -/
def anchorSegments : List Segment → List Segment
  | [] => []
  | [] :: rest => rest
  | [only] => if only = anyDepth then [only] else [anyDepth, only]
  | [only, []] => if only = anyDepth then [only, []] else [anyDepth, only, []]
  | segments => segments

/-- The segments of a pattern. An empty one at the end stands for all below a directory. -/
def patternSegments (pattern : List Char) : List Segment :=
  let segments := anchorSegments (splitAt '/' pattern)
  mergeDepths (segments.dropLast ++
    (segments.getLast?.toList.map fun last => if last = [] then anyDepth else last))

def namedSteps (segment : Segment) : Except GlobFlaw (List Step) :=
  if segment = anyName then .ok [.one notSlash, .many notSlash] else globSteps segment

/-- The steps of the segments from some place on, which may need a slash in front. -/
def segmentSteps (atStart needSlash : Bool) : List Segment → Except GlobFlaw (List Step)
  | [] => .ok []
  | [last] =>
    if last = anyDepth then .ok [.one slash]
    else (namedSteps last).map fun steps =>
      (if needSlash then [.one slash] else []) ++ steps ++ [.boundary]
  | segment :: next :: rest =>
    if segment = anyDepth then
      if atStart then (segmentSteps false false (next :: rest)).map (.dirsAhead :: ·)
      else (segmentSteps false true (next :: rest)).map (.dirsWithin :: ·)
    else do
      let steps ← namedSteps segment
      let more ← segmentSteps false true (next :: rest)
      return (if needSlash then [.one slash] else []) ++ steps ++ more

/-- The test of the segments of a pattern. Patterns of stars alone match any name, or any directory
and what is below it. -/
def segmentsTest (forDirectories : Bool) (segments : List Segment) : Except GlobFlaw Test :=
  if segments = [anyDepth] then .ok (.anywhere (if forDirectories then slash else notLineFeed))
  else if segments = [anyDepth, anyName] then .ok (.anywhere notLineFeed)
  else if segments = [anyDepth, anyName, anyDepth] then .ok (.anywhere slash)
  else (segmentSteps true false segments).map .fromStart

def CharSet.backward (set : CharSet) : Bool := set.ranges.any fun range => range.2 < range.1

def Step.backward : Step → Bool
  | .one set => set.backward
  | .many set => set.backward
  | _ => false

def Test.backward : Test → Bool
  | .anywhere set => set.backward
  | .fromStart steps => steps.any Step.backward

/-- A line without the blanks at its end, unless the last of them is an escaped space. -/
def trimPatternEnd (line : List Char) : List Char :=
  match line.reverse with
  | ' ' :: '\\' :: _ => line
  | _ => trimEnd line

/-- The rule of a line, if it has one: blank lines, comments and a slash alone have none. -/
def Rule.ofLine? (line : String) : Except PatternFlaw (Option Rule) :=
  let text := trimPatternEnd line.toList
  if text = [] ∨ text = ['/'] ∨ text.head? = some '#' then .ok none
  else
    let (keeps, pattern) :=
      match text with
      | '!' :: rest => (true, rest)
      | rest => (false, rest)
    let segments := patternSegments pattern
    if segments = [] then .error (.invalid line)
    else
      match segmentsTest (pattern.getLast? == some '/') segments with
      | .error .danglingEscape => .error (.invalid line)
      | .error .openBracket => .ok none
      | .ok test => if test.backward then .error .backwardRange else .ok (some ⟨keeps, test⟩)

/-- The rules of some lines, in their order. -/
def Rule.ofLines : List String → Except PatternFlaw (List Rule)
  | [] => .ok []
  | line :: rest =>
    if line = "" then Rule.ofLines rest
    else do
      let rule ← Rule.ofLine? line
      let rules ← Rule.ofLines rest
      return rule.toList ++ rules

/-- The text of a path without one slash, or one dot and slash, at its start. -/
def relativeText : List Char → List Char
  | '/' :: rest => rest
  | '.' :: '/' :: rest => rest
  | text => text

def Rule.pattern (rule : Rule) : Pattern where
  keeps := rule.keeps
  holds := fun text => rule.matchesPath (relativeText text.toList)

/-- The patterns that are used unless others are given. -/
instance wildmatch : PatternLibrary where
  pattern? line := (Rule.ofLine? line).map (Option.map Rule.pattern)
  compile lines := (Rule.ofLines lines).map fun rules => skippedBy (rules.map Rule.pattern)

end ShellSurvey
