import ShellSurvey.Json.Printer
import ShellSurvey.Json.Reader

namespace ShellSurvey

/-- The flaw of an integer: too many digits. -/
def integerFlaw? (n : Int) : Option JsonFlaw :=
  let digits := (natDigits n.natAbs).length
  if integerDigitLimit < digits then some (.integerTooLong digits) else none

mutual

/-- The first flaw of a value that is to be written or read, where `room` tells how many collections may
still be nested. -/
def Json.flaw? (room : Nat) : Json → Option JsonFlaw
  | .int n => integerFlaw? n
  | .arr elements =>
    match room with
    | 0 => some (.tooDeep .array)
    | room + 1 => elementsFlaw? room elements
  | .obj members =>
    match room with
    | 0 => some (.tooDeep .object)
    | room + 1 => membersFlaw? room members
  | _ => none

def elementsFlaw? (room : Nat) : List Json → Option JsonFlaw
  | [] => none
  | x :: xs => (x.flaw? room).or (elementsFlaw? room xs)

def membersFlaw? (room : Nat) : Members → Option JsonFlaw
  | [] => none
  | (_, value) :: rest => (value.flaw? room).or (membersFlaw? room rest)

end

/-- The text that a value is written as, where collections may be nested up to some depth. -/
def Json.write (limit : Nat) (layout : Layout) (value : Json) : Except JsonFlaw String :=
  match value.flaw? limit with
  | some flaw => .error flaw
  | none => .ok (value.text layout)

end ShellSurvey
