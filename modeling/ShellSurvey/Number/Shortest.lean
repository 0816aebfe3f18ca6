import ShellSurvey.Number.Binary64
import ShellSurvey.Text.Digit

namespace ShellSurvey

/-- A positive decimal number `digits · 10 ^ exponent`. -/
structure DecimalNumber where
  digits : Nat
  exponent : Int
  deriving DecidableEq, Repr

/-- The reals that round to a number, as quarters of a unit `2 ^ power`: from `low` to `high` with
the value at `middle`, ends included or not. -/
structure RoundingInterval where
  low : Nat
  middle : Nat
  high : Nat
  closed : Bool
  power : Int

def RoundingInterval.around (significand : Nat) (power : Int) : RoundingInterval where
  low := if significand = twoTo 52 ∧ power ≠ -1074 then 4 * significand - 1 else 4 * significand - 2
  middle := 4 * significand
  high := 4 * significand + 2
  closed := significand % 2 == 0
  power := power - 2

/-- The interval as whole numbers over a common denominator on the grid of multiples of
`10 ^ exponent`: a multiple `n` of the grid stands at `n * grid`. -/
structure GridView where
  low : Nat
  middle : Nat
  high : Nat
  grid : Nat

def RoundingInterval.onGrid (interval : RoundingInterval) (exponent : Int) : GridView :=
  let up := twoTo interval.power.toNat * tenTo (-exponent).toNat
  { low := interval.low * up
    middle := interval.middle * up
    high := interval.high * up
    grid := twoTo (-interval.power).toNat * tenTo exponent.toNat }

def GridView.holds (view : GridView) (closed : Bool) (n : Nat) : Bool :=
  let point := n * view.grid
  if closed then view.low ≤ point && point ≤ view.high else view.low < point && point < view.high

/-- The multiple of the grid nearest to the value among its two neighbours that read back as it. -/
def RoundingInterval.nearestOnGrid (interval : RoundingInterval) (exponent : Int) : Option Nat :=
  let view := interval.onGrid exponent
  let below := view.middle / view.grid
  let above := below + 1
  match view.holds interval.closed below, view.holds interval.closed above with
  | false, false => none
  | true, false => some below
  | false, true => some above
  | true, true =>
    let toBelow := view.middle - below * view.grid
    let toAbove := above * view.grid - view.middle
    if toBelow < toAbove then some below
    else if toAbove < toBelow then some above
    else some (below + below % 2)

/-- The greatest power of ten that is at most the value, from an upper estimate downwards. -/
def RoundingInterval.floorLog10 (interval : RoundingInterval) : Nat → Int → Int
  | 0, exponent => exponent
  | fuel + 1, exponent =>
    let view := interval.onGrid exponent
    if view.grid ≤ view.middle then exponent else interval.floorLog10 fuel (exponent - 1)

/-- Moves the zeros at the end of the digits into the exponent. -/
def DecimalNumber.stripZeros : Nat → DecimalNumber → DecimalNumber
  | 0, x => x
  | fuel + 1, x =>
    if x.digits ≠ 0 ∧ x.digits % 10 = 0 then stripZeros fuel ⟨x.digits / 10, x.exponent + 1⟩ else x

/-- Seventeen digits tell all numbers of 64 bits apart, so the search ends by then. -/
def shortestDecimal (significand : Nat) (power : Int) : DecimalNumber :=
  let interval := RoundingInterval.around significand power
  let top := interval.floorLog10 700 310
  let found := (List.range 17).findSome? fun (further : Nat) =>
    let exponent := top - further
    (interval.nearestOnGrid exponent).map fun digits => DecimalNumber.mk digits exponent
  (found.getD ⟨significand, power⟩).stripZeros 20

/-- Texts of the special values. -/
structure SpecialTexts where
  nan : String
  infinity : String

/-- Numbers from `0.0001` below `10 ^ 16` are written out with a decimal point, all others with an
exponent of at least two digits and a sign. -/
def DecimalNumber.text (x : DecimalNumber) : List Char :=
  let digits := natDigits x.digits
  let point : Int := x.exponent + digits.length
  if -4 < point ∧ point ≤ 16 then
    if point ≤ 0 then '0' :: '.' :: (List.replicate (-point).toNat '0' ++ digits)
    else if x.exponent ≥ 0 then digits ++ List.replicate x.exponent.toNat '0' ++ ['.', '0']
    else digits.take point.toNat ++ '.' :: digits.drop point.toNat
  else
    let scale := point - 1
    let mantissa :=
      match digits with
      | [first] => [first]
      | first :: rest => first :: '.' :: rest
      | [] => []
    let size := natDigits scale.natAbs
    mantissa ++ 'e' :: (if scale < 0 then '-' else '+') ::
      (List.replicate (2 - size.length) '0' ++ size)

def Binary64.text (special : SpecialTexts) (x : Binary64) : String :=
  let sign (negative : Bool) : List Char := if negative then ['-'] else []
  match x.value with
  | .nan => special.nan
  | .infinite negative => .ofList (sign negative ++ special.infinity.toList)
  | .finite negative significand power =>
    .ofList (sign negative ++
      if significand = 0 then ['0', '.', '0'] else (shortestDecimal significand power).text)

end ShellSurvey
