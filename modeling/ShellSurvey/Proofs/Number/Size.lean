import ShellSurvey.Json.Basic

namespace ShellSurvey

/-- How large a number is: finite ones in units of the least positive floating point number. -/
inductive Size where
  | nan
  | infinite (negative : Bool)
  | finite (units : Int)

/-- The power of two that the unit of sizes is the inverse of. It is not to be computed with. -/
@[irreducible] def unitPower : Nat := 1074

/-- The size of a finite floating point number, sign aside. -/
def unitsOf (exponent fraction : Nat) : Nat :=
  if exponent = 0 then fraction else (twoTo 52 + fraction) * twoTo (exponent - 1)

def Binary64.size (x : Binary64) : Size :=
  if x.exponentField = 2047 then
    if x.fractionField = 0 then .infinite x.negative else .nan
  else
    let units : Int := unitsOf x.exponentField x.fractionField
    .finite (if x.negative then -units else units)

/-- The size of a value that is a number. -/
def Json.size? : Json → Option Size
  | .float x => some x.size
  | value => value.integer?.map fun n => .finite (n * twoTo unitPower)

theorem twoTo_add (less more : Nat) : twoTo (less + more) = twoTo less * twoTo more :=
  Nat.pow_add 2 less more

theorem twoTo_pos (exponent : Nat) : 0 < twoTo exponent := Nat.pow_pos (by decide)

theorem twoTo_le_twoTo {less more : Nat} (atMost : less ≤ more) : twoTo less ≤ twoTo more :=
  Nat.pow_le_pow_right (by decide) atMost

theorem Binary64.fractionField_lt (x : Binary64) : x.fractionField < twoTo 52 :=
  Nat.mod_lt _ (twoTo_pos 52)

/-- A larger exponent outweighs any fraction. -/
theorem unitsOf_lt {exponent larger fraction : Nat} (small : fraction < twoTo 52) (other : Nat)
    (less : exponent < larger) : unitsOf exponent fraction < unitsOf larger other := by
  have above : twoTo 52 * twoTo (larger - 1) ≤ unitsOf larger other := by
    rw [unitsOf, if_neg (by omega)]
    exact Nat.mul_le_mul_right _ (Nat.le_add_right ..)
  refine Nat.lt_of_lt_of_le ?_ above
  rw [unitsOf]
  split
  · exact Nat.lt_of_lt_of_le small (Nat.le_mul_of_pos_right _ (twoTo_pos _))
  · have double : twoTo (exponent - 1 + 1) = twoTo (exponent - 1) * 2 := rfl
    have next : twoTo (exponent - 1) * 2 ≤ twoTo (larger - 1) :=
      double ▸ twoTo_le_twoTo (by omega)
    calc (twoTo 52 + fraction) * twoTo (exponent - 1)
        < (twoTo 52 + twoTo 52) * twoTo (exponent - 1) :=
          Nat.mul_lt_mul_of_pos_right (Nat.add_lt_add_left small _) (twoTo_pos _)
      _ = twoTo 52 * (twoTo (exponent - 1) * 2) := by
          rw [← Nat.two_mul, Nat.mul_comm 2, Nat.mul_assoc, Nat.mul_comm 2]
      _ ≤ twoTo 52 * twoTo (larger - 1) := Nat.mul_le_mul_left _ next

theorem unitsOf_injective {exponent other fraction more : Nat} (small : fraction < twoTo 52)
    (alsoSmall : more < twoTo 52) (same : unitsOf exponent fraction = unitsOf other more) :
    exponent = other ∧ fraction = more := by
  have exponents : exponent = other := by
    rcases Nat.lt_trichotomy exponent other with less | equal | greater
    · exact absurd same (Nat.ne_of_lt (unitsOf_lt small more less))
    · exact equal
    · exact absurd same.symm (Nat.ne_of_lt (unitsOf_lt alsoSmall fraction greater))
  subst exponents
  refine ⟨rfl, ?_⟩
  unfold unitsOf at same
  split at same
  · exact same
  · exact Nat.add_left_cancel (Nat.eq_of_mul_eq_mul_right (twoTo_pos _) same)

theorem unitsOf_eq_zero_iff (exponent fraction : Nat) :
    unitsOf exponent fraction = 0 ↔ exponent = 0 ∧ fraction = 0 := by
  unfold unitsOf
  split
  · next zero => simp [zero]
  · next positive =>
    have large := twoTo_pos 52
    have power := twoTo_pos (exponent - 1)
    simp only [Nat.mul_eq_zero, positive, false_and, iff_false]
    omega

/-- The bits of a number are those of its three fields. -/
theorem Binary64.bits_eq (x : Binary64) :
    x.bits.toNat = (if x.negative then twoTo 63 else 0) +
      (x.exponentField * twoTo 52 + x.fractionField) := by
  have bound := x.bits.toNat_lt
  have low : twoTo 52 = 4503599627370496 := rfl
  have high : twoTo 63 = 9223372036854775808 := rfl
  simp only [negative, exponentField, fractionField, low, high, beq_iff_eq]
  split <;> omega

theorem Binary64.eq_of_fields {x y : Binary64} (sign : x.negative = y.negative)
    (exponent : x.exponentField = y.exponentField) (fraction : x.fractionField = y.fractionField) :
    x = y := by
  have bits : x.bits.toNat = y.bits.toNat := by
    rw [x.bits_eq, y.bits_eq, sign, exponent, fraction]
  cases x
  cases y
  exact congrArg Binary64.mk (UInt64.toNat_inj.mp bits)

theorem Binary64.isZero_iff (x : Binary64) :
    (x.bits.toNat % twoTo 63 == 0) = true ↔ unitsOf x.exponentField x.fractionField = 0 := by
  have low : twoTo 52 = 4503599627370496 := rfl
  have high : twoTo 63 = 9223372036854775808 := rfl
  rw [unitsOf_eq_zero_iff, beq_iff_eq]
  simp only [exponentField, fractionField, low, high]
  omega

/-- What a number stands for and its size go together. -/
theorem Binary64.value_cases (x : Binary64) :
    (x.value = .nan ∧ x.size = .nan) ∨
    (x.value = .infinite x.negative ∧ x.size = .infinite x.negative ∧ x.exponentField = 2047 ∧
      x.fractionField = 0) ∨
    ∃ significand power, x.value = .finite x.negative significand power ∧
      x.exponentField ≠ 2047 ∧
      unitsOf x.exponentField x.fractionField * twoTo (-power).toNat =
        significand * twoTo power.toNat * twoTo unitPower := by
  by_cases special : x.exponentField = 2047
  · by_cases infinite : x.fractionField = 0
    · exact Or.inr (Or.inl (by simp [value, size, special, infinite]))
    · exact Or.inl (by simp [value, size, special, infinite])
  · refine Or.inr (Or.inr ?_)
    by_cases tiny : x.exponentField = 0
    · refine ⟨x.fractionField, -1074, by simp [value, tiny], special, ?_⟩
      have halvings : (-(-1074) : Int).toNat = unitPower := by
        rw [unitPower]
        rfl
      have doublings : twoTo (-1074 : Int).toNat = 1 := rfl
      rw [unitsOf, if_pos tiny, halvings, doublings, Nat.mul_one]
    · refine ⟨twoTo 52 + x.fractionField, (x.exponentField : Int) - 1075,
        by simp [value, special, tiny], special, ?_⟩
      have powers : x.exponentField - 1 + (-((x.exponentField : Int) - 1075)).toNat =
          ((x.exponentField : Int) - 1075).toNat + unitPower := by
        rw [unitPower]
        omega
      rw [unitsOf, if_neg tiny, Nat.mul_assoc, ← twoTo_add, powers, twoTo_add, Nat.mul_assoc]

/-- Two ways to compare an integer with a fraction, one of them in units. -/
theorem eq_units_iff {n sign significand units halvings doublings unit : Int} (least : halvings ≠ 0)
    (positive : unit ≠ 0) (scaled : units * halvings = significand * doublings * unit) :
    n * halvings = sign * significand * doublings ↔ sign * units = n * unit := by
  constructor
  · intro same
    refine Int.eq_of_mul_eq_mul_right least ?_
    calc sign * units * halvings = sign * (significand * doublings * unit) := by
          rw [Int.mul_assoc, scaled]
      _ = sign * significand * doublings * unit := by grind
      _ = n * unit * halvings := by rw [← same]; grind
  · intro same
    refine Int.eq_of_mul_eq_mul_right positive ?_
    calc n * halvings * unit = n * unit * halvings := by grind
      _ = sign * (units * halvings) := by rw [← same, Int.mul_assoc]
      _ = sign * significand * doublings * unit := by rw [scaled]; grind

theorem signed_eq (negative : Bool) (n : Nat) :
    (if negative then -(n : Int) else n) = (if negative then -1 else 1) * n := by
  cases negative <;> simp

theorem Binary64.equalsInt_iff (x : Binary64) (n : Int) :
    x.equalsInt n = true ↔ x.size = .finite (n * twoTo unitPower) := by
  rcases x.value_cases with ⟨value, size⟩ | ⟨value, size, _⟩ |
    ⟨significand, power, value, finite, units⟩
  · simp [equalsInt, value, size]
  · simp [equalsInt, value, size]
  · have positive : (twoTo unitPower : Int) ≠ 0 := by
      have := twoTo_pos unitPower
      omega
    have least : (twoTo (-power).toNat : Int) ≠ 0 := by
      have := twoTo_pos (-power).toNat
      omega
    have scaled : (unitsOf x.exponentField x.fractionField : Int) * twoTo (-power).toNat =
        significand * twoTo power.toNat * twoTo unitPower := by exact_mod_cast units
    rw [equalsInt, value, size, if_neg finite]
    simp only [beq_iff_eq, Size.finite.injEq, signed_eq]
    exact eq_units_iff least positive scaled

theorem Binary64.size_eq_nan_iff (x : Binary64) : x.size = .nan ↔ x.value = .nan := by
  rcases x.value_cases with ⟨value, size⟩ | ⟨value, size, _⟩ | ⟨_, _, value, finite, _⟩
  · simp [value, size]
  · simp [value, size]
  · simp [value, size, finite]

/-- Zeros of both signs have the same size. -/
theorem Binary64.size_of_zero {x : Binary64}
    (zero : unitsOf x.exponentField x.fractionField = 0) : x.size = .finite 0 := by
  have exponent := ((unitsOf_eq_zero_iff _ _).mp zero).1
  rw [size, if_neg (by omega), zero]
  simp

/-- A size is that of one number, or of both zeros. -/
theorem Binary64.eq_of_size_eq {x y : Binary64} (number : x.value ≠ .nan) (same : x.size = y.size) :
    x = y ∨ unitsOf x.exponentField x.fractionField = 0 ∧
      unitsOf y.exponentField y.fractionField = 0 := by
  rcases x.value_cases with ⟨value, _⟩ | ⟨_, xSize, xExponent, xFraction⟩ | ⟨_, _, _, xFinite, _⟩
  · exact absurd value number
  · rcases y.value_cases with ⟨_, ySize⟩ | ⟨_, ySize, yExponent, yFraction⟩ | ⟨_, _, _, yFinite, _⟩
    · rw [xSize, ySize] at same
      cases same
    · rw [xSize, ySize, Size.infinite.injEq] at same
      exact Or.inl (eq_of_fields same (by rw [xExponent, yExponent]) (by rw [xFraction, yFraction]))
    · rw [xSize, size, if_neg yFinite] at same
      cases same
  · rcases y.value_cases with ⟨_, ySize⟩ | ⟨_, ySize, _⟩ | ⟨_, _, _, yFinite, _⟩
    · rw [ySize, size, if_neg xFinite] at same
      cases same
    · rw [ySize, size, if_neg xFinite] at same
      cases same
    · rw [size, size, if_neg xFinite, if_neg yFinite, Size.finite.injEq] at same
      by_cases signs : x.negative = y.negative
      · have units : unitsOf x.exponentField x.fractionField =
            unitsOf y.exponentField y.fractionField := by
          rw [signs] at same
          split at same <;> omega
        obtain ⟨exponent, fraction⟩ :=
          unitsOf_injective x.fractionField_lt y.fractionField_lt units
        exact Or.inl (eq_of_fields signs exponent fraction)
      · refine Or.inr ?_
        cases xSign : x.negative <;> cases ySign : y.negative <;>
          simp only [xSign, ySign, if_true, Bool.false_eq_true, if_false, not_true] at same signs <;>
          omega

/-- Floating point numbers are equal exactly if they have the same size. -/
theorem Binary64.equals_iff (x y : Binary64) : x.equals y = true ↔ x.size = y.size := by
  by_cases xNan : x.value = .nan
  · have alsoNan : Size.nan = y.size ↔ y.value = .nan := eq_comm.trans y.size_eq_nan_iff
    rw [x.size_eq_nan_iff.mpr xNan, alsoNan, equals, xNan]
    cases y.value <;> simp
  by_cases yNan : y.value = .nan
  · rw [y.size_eq_nan_iff.mpr yNan, x.size_eq_nan_iff, equals, yNan]
    cases value : x.value <;> simp_all
  have compared : x.equals y = (x == y ||
      (x.bits.toNat % twoTo 63 == 0 && y.bits.toNat % twoTo 63 == 0)) := by
    unfold equals
    split <;> simp_all
  rw [compared, Bool.or_eq_true, Bool.and_eq_true, beq_iff_eq, isZero_iff, isZero_iff]
  constructor
  · rintro (rfl | ⟨xZero, yZero⟩)
    · rfl
    · rw [size_of_zero xZero, size_of_zero yZero]
  · exact eq_of_size_eq xNan

theorem integer_size_injective {m n : Int} (same : m * twoTo unitPower = n * twoTo unitPower) :
    m = n := by
  have positive := twoTo_pos unitPower
  exact Int.eq_of_mul_eq_mul_right (by omega) same

/-- Values are the same number exactly if they have a size, and the same one. -/
theorem sameNumber_iff (a b : Json) :
    sameNumber a b = true ↔ ∃ size, a.size? = some size ∧ b.size? = some size := by
  have floats (x y : Binary64) : sameNumber (.float x) (.float y) = true ↔
      ∃ size, some x.size = some size ∧ some y.size = some size := by
    simp [sameNumber, x.equals_iff, eq_comm]
  have mixed (x : Binary64) (n : Int) : x.equalsInt n = true ↔
      ∃ size, some x.size = some size ∧ some (Size.finite (n * twoTo unitPower)) = some size := by
    simp [x.equalsInt_iff, eq_comm]
  have integers (m n : Int) : ((some m).isSome && some m == some n) = true ↔
      ∃ size, some (Size.finite (m * twoTo unitPower)) = some size ∧
        some (Size.finite (n * twoTo unitPower)) = some size := by
    rw [Option.isSome_some, Bool.true_and, beq_iff_eq, Option.some.injEq]
    constructor
    · rintro rfl
      exact ⟨_, rfl, rfl⟩
    · rintro ⟨size, first, second⟩
      rw [← second, Option.some.injEq, Size.finite.injEq] at first
      exact integer_size_injective first
  cases a with
  | float x =>
    cases b with
    | float y => exact floats x y
    | bool b => exact mixed x _
    | int n => exact mixed x n
    | _ => simp [sameNumber, Json.size?, Json.integer?]
  | bool a =>
    cases b with
    | float y => exact (mixed y _).trans (exists_congr fun _ => and_comm)
    | bool b => exact integers _ _
    | int n => exact integers _ n
    | _ => simp [sameNumber, Json.size?, Json.integer?]
  | int m =>
    cases b with
    | float y => exact (mixed y m).trans (exists_congr fun _ => and_comm)
    | bool b => exact integers m _
    | int n => exact integers m n
    | _ => simp [sameNumber, Json.size?, Json.integer?]
  | _ => cases b <;> simp [sameNumber, Json.size?, Json.integer?]

theorem sameNumber_trans {a b c : Json} (first : sameNumber a b = true)
    (second : sameNumber b c = true) : sameNumber a c = true := by
  obtain ⟨size, aSize, bSize⟩ := (sameNumber_iff a b).mp first
  obtain ⟨other, alsoB, cSize⟩ := (sameNumber_iff b c).mp second
  rw [bSize, Option.some.injEq] at alsoB
  exact (sameNumber_iff a c).mpr ⟨size, aSize, alsoB ▸ cSize⟩

end ShellSurvey
