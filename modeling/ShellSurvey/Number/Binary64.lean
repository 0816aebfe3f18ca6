import ShellSurvey.Number.Power

namespace ShellSurvey

structure Binary64 where
  bits : UInt64
  deriving DecidableEq, Repr

/-- What a number of 64 bits stands for: not a number, an infinity, or `± significand · 2 ^ power`. -/
inductive Binary64.Value where
  | nan
  | infinite (negative : Bool)
  | finite (negative : Bool) (significand : Nat) (power : Int)
  deriving DecidableEq, Repr

def Binary64.exponentField (x : Binary64) : Nat := x.bits.toNat / twoTo 52 % 2048

def Binary64.fractionField (x : Binary64) : Nat := x.bits.toNat % twoTo 52

def Binary64.negative (x : Binary64) : Bool := x.bits.toNat / twoTo 63 == 1

def Binary64.value (x : Binary64) : Value :=
  if x.exponentField = 2047 then
    if x.fractionField = 0 then .infinite x.negative else .nan
  else if x.exponentField = 0 then .finite x.negative x.fractionField (-1074)
  else .finite x.negative (twoTo 52 + x.fractionField) ((x.exponentField : Int) - 1075)

def Binary64.ofFields (negative : Bool) (magnitude : Nat) : Binary64 :=
  ⟨UInt64.ofNat ((if negative then twoTo 63 else 0) + magnitude)⟩

def Binary64.nan : Binary64 := .ofFields false (2047 * twoTo 52 + twoTo 51)

def Binary64.infinity (negative : Bool) : Binary64 := .ofFields negative (2047 * twoTo 52)

/-- A fraction rounded to the nearest integer, a half to the even one. -/
def roundHalfEven (numerator denominator : Nat) : Nat :=
  let floor := numerator / denominator
  let twice := 2 * (numerator % denominator)
  if twice < denominator then floor
  else if denominator < twice then floor + 1
  else floor + floor % 2

/-- The greatest power of two that is at most a positive fraction. -/
def floorLog2 (numerator denominator : Nat) : Int :=
  let guess : Int := (numerator.log2 : Int) - denominator.log2
  let fits : Bool :=
    match guess with
    | .ofNat k => denominator * twoTo k ≤ numerator
    | .negSucc k => denominator ≤ numerator * twoTo (k + 1)
  if fits then guess else guess - 1

/-- The bits, sign aside, of the number nearest to a positive fraction. The carry out of a full
significand moves into the exponent by itself. -/
def nearestMagnitude (numerator denominator : Nat) : Nat :=
  let power := max (floorLog2 numerator denominator - 52) (-1074)
  let significand :=
    match power with
    | .ofNat k => roundHalfEven numerator (denominator * twoTo k)
    | .negSucc k => roundHalfEven (numerator * twoTo (k + 1)) denominator
  let magnitude :=
    if significand < twoTo 52 then significand
    else (power + 1075).toNat * twoTo 52 + (significand - twoTo 52)
  min magnitude (2047 * twoTo 52)

/-- The number nearest to `± digits · 10 ^ exponent`, where `width` counts the digits. Exponents far
out of range are settled by size alone. -/
def Binary64.ofDecimal (negative : Bool) (digits width : Nat) (exponent : Int) : Binary64 :=
  if digits = 0 then .ofFields negative 0
  else if exponent + width > 400 then
    if exponent > 400 then .infinity negative
    else
      .ofFields negative
        (nearestMagnitude (digits * tenTo exponent.toNat) (tenTo (-exponent).toNat))
  else if exponent + width < -400 then .ofFields negative 0
  else
    .ofFields negative
      (nearestMagnitude (digits * tenTo exponent.toNat) (tenTo (-exponent).toNat))

end ShellSurvey
