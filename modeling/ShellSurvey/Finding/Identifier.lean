import ShellSurvey.Text.Blank
import ShellSurvey.Text.Digit
import ShellSurvey.Text.Hex

namespace ShellSurvey

/-- Takes every occurrence of a word out of a text, from the left. -/
def removeWord (word : List Char) : Nat → List Char → List Char
  | 0, cs => cs
  | _ + 1, [] => []
  | fuel + 1, c :: rest =>
    if word.isPrefixOf (c :: rest) then removeWord word fuel ((c :: rest).drop word.length)
    else c :: removeWord word fuel rest

def removeAll (word : String) (cs : List Char) : List Char :=
  removeWord word.toList (cs.length + 1) cs

def isBrace (c : Char) : Bool := c = '\x7b' || c = '\x7d'

/-- The characters of an identifier that make up its number. -/
def identifierCore (text : String) : List Char :=
  let bare := removeAll "uuid:" (removeAll "urn:" text.toList)
  (dropWhileEnd isBrace (bare.dropWhile isBrace)).filter (· ≠ '-')

/-- A character of a number in plain form: decimal digits of all scripts are digits, and blanks
outside the plain characters are spaces. -/
def plainNumberChar (c : Char) : Char :=
  if c.toNat < 0x80 then c
  else if isBlank c then ' '
  else
    match digitValue? c with
    | some value => digitChar value
    | none => c

/-- Blanks that may surround a number in plain form. -/
def isNumberBlank (c : Char) : Bool := c = ' ' || (0x09 ≤ c.toNat && c.toNat ≤ 0x0D)

def isHexDigit (c : Char) : Bool := (hexValue? c).isSome

/-- Digits with single underscores between them. -/
def isDigitRun : List Char → Bool
  | [] => false
  | [c] => isHexDigit c
  | c :: '_' :: rest => isHexDigit c && isDigitRun rest
  | c :: rest => isHexDigit c && isDigitRun rest

/-- What follows the mark of the base, one underscore aside. -/
def afterBaseMark : List Char → List Char
  | '0' :: 'x' :: '_' :: rest => rest
  | '0' :: 'X' :: '_' :: rest => rest
  | '0' :: 'x' :: rest => rest
  | '0' :: 'X' :: rest => rest
  | rest => rest

def isHexNumber (cs : List Char) : Bool :=
  let bare := dropWhileEnd isNumberBlank ((cs.map plainNumberChar).dropWhile isNumberBlank)
  let unsigned :=
    match bare with
    | '+' :: rest => rest
    | rest => rest
  isDigitRun (afterBaseMark unsigned)

def identifierLength : Nat := 32

def isIdentifier (text : String) : Bool :=
  let core := identifierCore text
  core.length = identifierLength && isHexNumber core

end ShellSurvey
