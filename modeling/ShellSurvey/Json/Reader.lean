import ShellSurvey.Json.Basic
import ShellSurvey.Text.Digit
import ShellSurvey.Text.Hex

namespace ShellSurvey

/-- What holds other values. -/
inductive Collection where
  | array
  | object
  deriving DecidableEq, Repr

/-- Why a text is no value: it does not follow the grammar, an integer has too many digits, or a
collection is nested too deeply. -/
inductive JsonFlaw where
  | malformed
  | integerTooLong (digits : Nat)
  | tooDeep (collection : Collection)
  deriving DecidableEq, Repr

def isJsonSpace (c : Char) : Bool := c = ' ' || c = '\t' || c = '\n' || c = '\r'

def skipSpace (cs : List Char) : List Char := cs.dropWhile isJsonSpace

def readUnit : List Char → Option (Nat × List Char)
  | a :: b :: c :: d :: rest => do
    let a ← hexValue? a
    let b ← hexValue? b
    let c ← hexValue? c
    let d ← hexValue? d
    return (((a * 16 + b) * 16 + c) * 16 + d, rest)
  | _ => none

def isHighHalf (unit : Nat) : Bool := 0xD800 ≤ unit && unit < 0xDC00

def isLowHalf (unit : Nat) : Bool := 0xDC00 ≤ unit && unit < 0xE000

def halvesChar (high low : Nat) : Char :=
  Char.ofNat (0x10000 + (high - 0xD800) * 0x400 + (low - 0xDC00))

/-- A half without its partner is no character, and reads as the replacement character. -/
def unitChar (unit : Nat) : Char :=
  if isHighHalf unit || isLowHalf unit then Char.ofNat 0xFFFD else Char.ofNat unit

/-- The character that an escape stands for, after its backslash. -/
def readEscape : List Char → Option (Char × List Char)
  | '\x22' :: rest => some ('\x22', rest)
  | '\\' :: rest => some ('\\', rest)
  | '/' :: rest => some ('/', rest)
  | 'b' :: rest => some ('\x08', rest)
  | 'f' :: rest => some ('\x0c', rest)
  | 'n' :: rest => some ('\n', rest)
  | 'r' :: rest => some ('\r', rest)
  | 't' :: rest => some ('\t', rest)
  | 'u' :: rest => do
    let (unit, rest) ← readUnit rest
    if isHighHalf unit then
      match rest with
      | '\\' :: 'u' :: more =>
        match readUnit more with
        | some (low, after) =>
          if isLowHalf low then some (halvesChar unit low, after) else some (unitChar unit, rest)
        | none => some (unitChar unit, rest)
      | _ => some (unitChar unit, rest)
    else some (unitChar unit, rest)
  | _ => none

/-- The rest of a string after its opening quote, onto what was read in reverse. -/
def readStringOnto : Nat → List Char → List Char → Option (String × List Char)
  | 0, _, _ => none
  | _ + 1, _, [] => none
  | fuel + 1, done, c :: rest =>
    if c = '\x22' then some (.ofList done.reverse, rest)
    else if c = '\\' then
      match readEscape rest with
      | some (escaped, rest) => readStringOnto fuel (escaped :: done) rest
      | none => none
    else if c.toNat < 0x20 then none
    else readStringOnto fuel (c :: done) rest

def readString (fuel : Nat) (cs : List Char) : Except JsonFlaw (String × List Char) :=
  match readStringOnto fuel [] cs with
  | some found => .ok found
  | none => .error .malformed

def isPlainDigit (c : Char) : Bool := '0' ≤ c && c ≤ '9'

/-- The fraction digits after a point, if at least one follows. -/
def readFraction (cs : List Char) : Option (List Char × List Char) :=
  match cs with
  | '.' :: rest =>
    let digits := rest.takeWhile isPlainDigit
    if digits.isEmpty then none else some (digits, rest.dropWhile isPlainDigit)
  | _ => none

/-- The signed exponent after its mark, if it has a digit. -/
def readExponent (cs : List Char) : Option (Int × List Char) :=
  let unsigned (negative : Bool) (rest : List Char) : Option (Int × List Char) :=
    let digits := rest.takeWhile isPlainDigit
    if digits.isEmpty then none
    else
      let size : Int := digitsValue digits
      some (if negative then -size else size, rest.dropWhile isPlainDigit)
  match cs with
  | c :: rest =>
    if c = 'e' ∨ c = 'E' then
      match rest with
      | '-' :: rest => unsigned true rest
      | '+' :: rest => unsigned false rest
      | rest => unsigned false rest
    else none
  | [] => none

/-- The most digits that an integer may have. -/
def integerDigitLimit : Nat := 4300

/-- The digits of a number before its fraction: a zero stands alone. -/
def wholeDigits : List Char → List Char
  | '0' :: _ => ['0']
  | cs => cs.takeWhile isPlainDigit

/-- A number after its sign; with a fraction or an exponent it is a floating point number. -/
def readNumber (negative : Bool) (cs : List Char) : Except JsonFlaw (Json × List Char) :=
  let whole := wholeDigits cs
  let afterWhole := cs.drop whole.length
  if whole.isEmpty then .error .malformed
  else
    match readFraction afterWhole, readExponent afterWhole with
    | none, none =>
      if integerDigitLimit < whole.length then .error (.integerTooLong whole.length)
      else
        let size : Int := digitsValue whole
        .ok (.int (if negative then -size else size), afterWhole)
    | none, some (exponent, rest) =>
      .ok (.float (.ofDecimal negative (digitsValue whole) whole.length exponent), rest)
    | some (fraction, afterFraction), _ =>
      let digits := whole ++ fraction
      let (exponent, rest) := (readExponent afterFraction).getD (0, afterFraction)
      .ok (.float (.ofDecimal negative (digitsValue digits) digits.length
        (exponent - fraction.length)), rest)

mutual

/-- A value and what follows it, where `room` tells how many collections may still be nested. -/
def readValue : Nat → Nat → List Char → Except JsonFlaw (Json × List Char)
  | 0, _, _ => .error .malformed
  | fuel + 1, room, cs =>
    match cs with
    | '\x22' :: rest => do
      let (text, rest) ← readString fuel rest
      return (.str text, rest)
    | '\x7b' :: rest =>
      match room, skipSpace rest with
      | 0, _ => .error (.tooDeep .object)
      | _, '\x7d' :: rest => .ok (.obj [], rest)
      | room + 1, rest => readMembers fuel room [] rest
    | '[' :: rest =>
      match room, skipSpace rest with
      | 0, _ => .error (.tooDeep .array)
      | _, ']' :: rest => .ok (.arr [], rest)
      | room + 1, rest => readElements fuel room [] rest
    | 'n' :: 'u' :: 'l' :: 'l' :: rest => .ok (.null, rest)
    | 't' :: 'r' :: 'u' :: 'e' :: rest => .ok (.bool true, rest)
    | 'f' :: 'a' :: 'l' :: 's' :: 'e' :: rest => .ok (.bool false, rest)
    | 'N' :: 'a' :: 'N' :: rest => .ok (.float .nan, rest)
    | 'I' :: 'n' :: 'f' :: 'i' :: 'n' :: 'i' :: 't' :: 'y' :: rest =>
      .ok (.float (.infinity false), rest)
    | '-' :: 'I' :: 'n' :: 'f' :: 'i' :: 'n' :: 'i' :: 't' :: 'y' :: rest =>
      .ok (.float (.infinity true), rest)
    | '-' :: rest => readNumber true rest
    | _ => readNumber false cs

/-- The elements of an array from one of them on, onto the earlier ones in reverse. -/
def readElements : Nat → Nat → List Json → List Char → Except JsonFlaw (Json × List Char)
  | 0, _, _, _ => .error .malformed
  | fuel + 1, room, done, cs => do
    let (value, rest) ← readValue fuel room cs
    match skipSpace rest with
    | ']' :: rest => return (.arr (value :: done).reverse, rest)
    | ',' :: rest => readElements fuel room (value :: done) (skipSpace rest)
    | _ => .error .malformed

/-- The members of an object from one of them on, onto the earlier ones. -/
def readMembers : Nat → Nat → Members → List Char → Except JsonFlaw (Json × List Char)
  | 0, _, _, _ => .error .malformed
  | fuel + 1, room, done, cs =>
    match cs with
    | '\x22' :: rest => do
      let (name, rest) ← readString fuel rest
      match skipSpace rest with
      | ':' :: rest =>
        let (value, rest) ← readValue fuel room (skipSpace rest)
        match skipSpace rest with
        | '\x7d' :: rest => return (.obj (setMember name value done), rest)
        | ',' :: rest => readMembers fuel room (setMember name value done) (skipSpace rest)
        | _ => .error .malformed
      | _ => .error .malformed
    | _ => .error .malformed

end

/-- The value that a whole text writes, where collections may be nested up to some depth. -/
def Json.parse (limit : Nat) (text : String) : Except JsonFlaw Json := do
  let cs := text.toList
  let (value, rest) ← readValue (2 * cs.length + 2) limit (skipSpace cs)
  if (skipSpace rest).isEmpty then return value else .error .malformed

end ShellSurvey
