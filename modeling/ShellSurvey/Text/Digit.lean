import ShellSurvey.Text.DigitTable

namespace ShellSurvey

/-- The value of a decimal digit of any script. -/
def digitValue? (c : Char) : Option Nat :=
  (decimalZeros.find? fun first => first ≤ c.toNat && c.toNat < first + 10).map (c.toNat - ·)

def digitChar (n : Nat) : Char := Char.ofNat (48 + n % 10)

/-- The decimal digits of a number, without leading zeros. -/
def natDigits (n : Nat) : List Char :=
  if n < 10 then [digitChar n] else natDigits (n / 10) ++ [digitChar n]

/-- The number written by plain decimal digits. -/
def digitsValue (digits : List Char) : Nat :=
  digits.foldl (fun value c => value * 10 + (c.toNat - 48)) 0

def intDigits : Int → List Char
  | .ofNat n => natDigits n
  | .negSucc n => '-' :: natDigits (n + 1)

def natText (n : Nat) : String := .ofList (natDigits n)

def intText (n : Int) : String := .ofList (intDigits n)

theorem digitChar_toNat (n : Nat) : (digitChar n).toNat = 48 + n % 10 := by
  have : ∀ k : Fin 10, (Char.ofNat (48 + k.val)).toNat = 48 + k.val := by decide
  exact this ⟨n % 10, Nat.mod_lt _ (by decide)⟩

theorem digitsValue_concat (digits : List Char) (c : Char) :
    digitsValue (digits ++ [c]) = digitsValue digits * 10 + (c.toNat - 48) := by
  simp [digitsValue]

/-- Reading the digits of a number gives the number. -/
theorem digitsValue_natDigits (n : Nat) : digitsValue (natDigits n) = n := by
  induction n using natDigits.induct with
  | case1 n small =>
    rw [natDigits, if_pos small]
    simp [digitsValue, digitChar_toNat]
    omega
  | case2 n large ih =>
    rw [natDigits, if_neg large, digitsValue_concat, ih, digitChar_toNat]
    omega

end ShellSurvey
