import ShellSurvey.Text.Hex
import ShellSurvey.Text.PrintableTable
import ShellSurvey.Text.LowerCase

namespace ShellSurvey

def isPrintable (c : Char) : Bool :=
  if c.toNat < 0x7F then 0x20 ≤ c.toNat else inRanges printableRanges c.toNat

/-- The quote that a text is put in. -/
def quoteFor (cs : List Char) : Char :=
  if cs.contains '\x27' && !cs.contains '\x22' then '\x22' else '\x27'

/-- A character inside quotes of the kind `mark`. -/
def escapeWithin (mark c : Char) : List Char :=
  if c = mark ∨ c = '\\' then ['\\', c]
  else if c = '\t' then ['\\', 't']
  else if c = '\n' then ['\\', 'n']
  else if c = '\r' then ['\\', 'r']
  else if isPrintable c then [c]
  else if c.toNat < 0x100 then '\\' :: 'x' :: hexDigits 2 c.toNat
  else if c.toNat < 0x10000 then '\\' :: 'u' :: hexDigits 4 c.toNat
  else '\\' :: 'U' :: hexDigits 8 c.toNat

def quoted (text : String) : String :=
  let mark := quoteFor text.toList
  .ofList (mark :: text.toList.flatMap (escapeWithin mark) ++ [mark])

end ShellSurvey
