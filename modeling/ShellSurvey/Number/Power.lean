namespace ShellSurvey

def twoTo (exponent : Nat) : Nat := Nat.pow 2 exponent

def tenTo (exponent : Nat) : Nat := Nat.pow 10 exponent

@[simp]
theorem tenTo_zero : tenTo 0 = 1 := rfl

theorem tenTo_succ (exponent : Nat) : tenTo (exponent + 1) = tenTo exponent * 10 := rfl

theorem tenTo_le_tenTo {less more : Nat} (atMost : less ≤ more) : tenTo less ≤ tenTo more :=
  Nat.pow_le_pow_right (by decide) atMost

end ShellSurvey
