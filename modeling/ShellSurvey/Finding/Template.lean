import ShellSurvey.Json.Display
import ShellSurvey.Number.Power

namespace ShellSurvey

/-- Why a template cannot be filled in. -/
inductive TemplateFlaw where
  | loneOpening
  | loneClosing
  | unclosed
  | nestedOpening
  | tooManyDigits
  | noSuchPosition (index : Nat)
  | noSuchName (name : String)
  deriving DecidableEq, Repr

def TemplateFlaw.message : TemplateFlaw → String
  | .loneOpening => "Single '\x7b' encountered in format string"
  | .loneClosing => "Single '\x7d' encountered in format string"
  | .unclosed => "expected '\x7d' before end of string"
  | .nestedOpening => "unexpected '\x7b' in field name"
  | .tooManyDigits => "Too many decimal digits in format string"
  | .noSuchPosition index =>
    "Replacement index " ++ natText index ++ " out of range for positional args tuple"
  | .noSuchName name => quoted name

/-- The greatest position that can be asked for. -/
def positionLimit : Nat := twoTo 63 - 1

/-- The position that digits of any script ask for, if there are digits only. Too great a number is
noticed before any character that is no digit. -/
def positionFrom (position : Nat) : List Char → Except TemplateFlaw (Option Nat)
  | [] => .ok (some position)
  | c :: rest =>
    match digitValue? c with
    | none => .ok none
    | some digit =>
      if positionLimit < position * 10 + digit then .error .tooManyDigits
      else positionFrom (position * 10 + digit) rest

/-- The value that a name stands for. No name and a number ask for a value by position, of which
there are none. -/
def fieldText (values : Members) (name : List Char) : Except TemplateFlaw (List Char) := do
  match ← positionFrom 0 name with
  | some position => .error (.noSuchPosition position)
  | none =>
    match values.lookup (.ofList name) with
    | some value => return value.display.toList
    | none => .error (.noSuchName (.ofList name))

/-- Fills in a template piece by piece, with its length as fuel. -/
def fillWithin (values : Members) : Nat → List Char → Except TemplateFlaw (List Char)
  | _, [] => .ok []
  | 0, _ => .ok []
  | fuel + 1, c :: rest =>
    if c = '\x7b' then
      match rest with
      | [] => .error .loneOpening
      | next :: after =>
        if next = '\x7b' then (fillWithin values fuel after).map ('\x7b' :: ·)
        else
          let name := rest.takeWhile fun c => c ≠ '\x7b' && c ≠ '\x7d'
          match rest.dropWhile fun c => c ≠ '\x7b' && c ≠ '\x7d' with
          | [] => .error .unclosed
          | stop :: after =>
            if stop = '\x7b' then .error .nestedOpening
            else do
              let value ← fieldText values name
              let more ← fillWithin values fuel after
              return value ++ more
    else if c = '\x7d' then
      match rest with
      | '\x7d' :: after => (fillWithin values fuel after).map ('\x7d' :: ·)
      | _ => .error .loneClosing
    else (fillWithin values fuel rest).map (c :: ·)

/-- A template with its names replaced. The first flaw from the left counts. -/
def fillTemplate (values : Members) (template : String) : Except TemplateFlaw String :=
  let cs := template.toList
  (fillWithin values cs.length cs).map String.ofList

end ShellSurvey
