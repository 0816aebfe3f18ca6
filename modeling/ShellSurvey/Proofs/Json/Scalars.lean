import ShellSurvey.Json.Writer

namespace ShellSurvey

theorem Char.toNat_lt_limit (c : Char) : c.toNat < 0x110000 := by
  rcases c.valid with below | ⟨_, below⟩
  · exact Nat.lt_trans below (by decide)
  · exact below

/-- No character is half of another one. -/
theorem isHalf_toNat (c : Char) : isHighHalf c.toNat = false ∧ isLowHalf c.toNat = false := by
  simp only [isHighHalf, isLowHalf, Bool.and_eq_false_iff, decide_eq_false_iff_not, Char.toNat]
  rcases c.valid with below | ⟨above, _⟩ <;> omega

theorem unitChar_toNat (c : Char) : unitChar c.toNat = c := by
  obtain ⟨high, low⟩ := isHalf_toNat c
  rw [unitChar, high, low, Bool.or_false, if_neg Bool.false_ne_true, Char.ofNat_toNat]

theorem readUnit_hexDigits (unit : Nat) (small : unit < 0x10000) (rest : List Char) :
    readUnit (hexDigits 4 unit ++ rest) = some (unit, rest) := by
  have digit (n : Nat) : hexValue? (hexDigit (n % 16)) = some (n % 16) :=
    hexValue?_hexDigit (Nat.mod_lt n (by decide))
  have sum : ((unit / 16 / 16 / 16 % 16 * 16 + unit / 16 / 16 % 16) * 16 + unit / 16 % 16) * 16 +
      unit % 16 = unit := by omega
  simp only [hexDigits, List.nil_append, List.cons_append, readUnit, digit, Option.pure_def,
    Option.bind_eq_bind, Option.bind_some, sum]

theorem readEscape_unit {c : Char} (small : c.toNat < 0x10000) (rest : List Char) :
    readEscape ('u' :: (hexDigits 4 c.toNat ++ rest)) = some (c, rest) := by
  simp only [readEscape, readUnit_hexDigits _ small, Option.bind_eq_bind, Option.bind_some,
    (isHalf_toNat c).1, Bool.false_eq_true, if_false, unitChar_toNat]

/-- The two halves of a character past the first plane read as that character. -/
theorem readEscape_halves {c : Char} (offset : Nat) (far : c.toNat = 0x10000 + offset)
    (rest : List Char) :
    readEscape ('u' :: (hexDigits 4 (0xD800 + offset / 0x400) ++
      (escapedUnit (0xDC00 + offset % 0x400) ++ rest))) = some (c, rest) := by
  have bound := Char.toNat_lt_limit c
  have highUnit := readUnit_hexDigits (0xD800 + offset / 0x400) (by omega)
  have lowUnit := readUnit_hexDigits (0xDC00 + offset % 0x400) (by omega)
  have high : isHighHalf (0xD800 + offset / 0x400) = true := by
    simp only [isHighHalf, Bool.and_eq_true, decide_eq_true_eq]
    omega
  have low : isLowHalf (0xDC00 + offset % 0x400) = true := by
    simp only [isLowHalf, Bool.and_eq_true, decide_eq_true_eq]
    omega
  have whole : halvesChar (0xD800 + offset / 0x400) (0xDC00 + offset % 0x400) = c := by
    have code : 0x10000 + (0xD800 + offset / 0x400 - 0xD800) * 0x400 +
        (0xDC00 + offset % 0x400 - 0xDC00) = c.toNat := by omega
    rw [halvesChar, code, Char.ofNat_toNat]
  simp only [readEscape, highUnit, Option.bind_eq_bind, Option.bind_some, high, if_true,
    escapedUnit, List.cons_append, lowUnit, low, whole]

/-- The reader takes what one character was written with at a time. -/
theorem readStringOnto_jsonChar (fuel : Nat) (done : List Char) (c : Char) (rest : List Char) :
    readStringOnto (fuel + 1) done (jsonChar c ++ rest) = readStringOnto fuel (c :: done) rest := by
  have escape (escaped : List Char) (found : readEscape (escaped ++ rest) = some (c, rest)) :
      readStringOnto (fuel + 1) done ('\\' :: (escaped ++ rest)) =
        readStringOnto fuel (c :: done) rest := by
    simp [readStringOnto, found]
  unfold jsonChar
  split
  · next same => subst same; simp [readStringOnto, readEscape]
  split
  · next same => subst same; simp [readStringOnto, readEscape]
  split
  · next same => subst same; simp [readStringOnto, readEscape]
  split
  · next same => subst same; simp [readStringOnto, readEscape]
  split
  · next same => subst same; simp [readStringOnto, readEscape]
  split
  · next same => subst same; simp [readStringOnto, readEscape]
  split
  · next same => subst same; simp [readStringOnto, readEscape]
  split
  · next noQuote noBackslash _ _ _ _ _ plain =>
    have visible : ¬ c.toNat < 0x20 := by omega
    simp [readStringOnto, noQuote, noBackslash, visible]
  split
  · next small => exact escape ('u' :: hexDigits 4 c.toNat) (readEscape_unit small rest)
  · next large =>
    have far : c.toNat = 0x10000 + (c.toNat - 0x10000) := by omega
    have found := readEscape_halves (c.toNat - 0x10000) far rest
    simp only [← List.append_assoc, ← List.cons_append] at found
    exact escape _ found

theorem readStringOnto_written (text done tail : List Char) {fuel : Nat}
    (enough : text.length < fuel) :
    readStringOnto fuel done (text.flatMap jsonChar ++ '\x22' :: tail) =
      some (.ofList (done.reverse ++ text), tail) := by
  induction text generalizing done fuel with
  | nil =>
    obtain ⟨fuel, rfl⟩ := Nat.exists_eq_add_of_lt enough
    simp [readStringOnto]
  | cons c text ih =>
    obtain ⟨fuel, rfl⟩ : ∃ more, fuel = more + 1 := ⟨fuel - 1, by omega⟩
    have rest := ih (c :: done) (show text.length < fuel by simpa using enough)
    rw [List.flatMap_cons, List.append_assoc, readStringOnto_jsonChar, rest]
    simp

/-- Every character is written with at least one. -/
theorem length_le_written (text : List Char) : text.length ≤ (text.flatMap jsonChar).length := by
  induction text with
  | nil => exact Nat.le_refl 0
  | cons c text ih =>
    have positive : 0 < (jsonChar c).length := by
      unfold jsonChar
      repeat' split
      all_goals simp [escapedUnit]
    simp only [List.flatMap_cons, List.length_cons, List.length_append]
    omega

theorem readString_written (text : String) (tail : List Char) {fuel : Nat}
    (enough : (jsonStringOnto text tail).length ≤ fuel) :
    readString fuel (text.toList.flatMap jsonChar ++ '\x22' :: tail) = .ok (text, tail) := by
  have longer := length_le_written text.toList
  have bound : text.toList.length < fuel := by
    simp only [jsonStringOnto, List.length_cons, List.length_append] at enough
    omega
  simp [readString, readStringOnto_written text.toList [] tail bound]

theorem isPlainDigit_digitChar (n : Nat) : isPlainDigit (digitChar n) = true := by
  have : ∀ k : Fin 10, isPlainDigit (Char.ofNat (48 + k.val)) = true := by decide
  exact this ⟨n % 10, Nat.mod_lt n (by decide)⟩

theorem isPlainDigit_of_mem_natDigits {n : Nat} {c : Char} (member : c ∈ natDigits n) :
    isPlainDigit c = true := by
  induction n using natDigits.induct with
  | case1 n small =>
    rw [natDigits, if_pos small, List.mem_singleton] at member
    exact member ▸ isPlainDigit_digitChar n
  | case2 n large ih =>
    rw [natDigits, if_neg large, List.mem_append, List.mem_singleton] at member
    rcases member with earlier | last
    · exact ih earlier
    · exact last ▸ isPlainDigit_digitChar n

/-- A written number has a first digit, which is a zero only if it is the only one. -/
theorem natDigits_leading (n : Nat) :
    ∃ c rest, natDigits n = c :: rest ∧ isPlainDigit c = true ∧ (c = '0' → rest = []) := by
  suffices ∃ c rest, natDigits n = c :: rest ∧ (0 < n → c ≠ '0') by
    obtain ⟨c, rest, shape, leading⟩ := this
    have digit := isPlainDigit_of_mem_natDigits (n := n) (c := c) (by simp [shape])
    refine ⟨c, rest, shape, digit, fun zero => ?_⟩
    have same : n = 0 := Nat.eq_zero_of_not_pos fun positive => leading positive zero
    subst same
    simp_all [natDigits]
  induction n using natDigits.induct with
  | case1 n small =>
    have : ∀ k : Fin 10, 0 < k.val → digitChar k.val ≠ '0' := by decide
    exact ⟨digitChar n, [], by rw [natDigits, if_pos small], this ⟨n, small⟩⟩
  | case2 n large ih =>
    obtain ⟨c, rest, shape, leading⟩ := ih
    refine ⟨c, rest ++ [digitChar n], ?_, fun _ => leading (by omega)⟩
    rw [natDigits, if_neg large, shape, List.cons_append]

/-- A number has at most so many digits exactly if it is below that power of ten. -/
theorem length_natDigits_le_iff (n : Nat) {width : Nat} (positive : 0 < width) :
    (natDigits n).length ≤ width ↔ n < tenTo width := by
  induction n using natDigits.induct generalizing width with
  | case1 n small =>
    have ten : 10 ≤ tenTo width := tenTo_le_tenTo positive
    rw [natDigits, if_pos small, List.length_singleton]
    omega
  | case2 n large ih =>
    obtain ⟨width, rfl⟩ : ∃ less, width = less + 1 := ⟨width - 1, by omega⟩
    rw [natDigits, if_neg large, List.length_append, List.length_singleton, tenTo_succ]
    cases width with
    | zero =>
      obtain ⟨c, rest, shape, _⟩ := natDigits_leading (n / 10)
      simp only [shape, List.length_cons, tenTo_zero]
      omega
    | succ width =>
      have shorter := ih (by omega : 0 < width + 1)
      omega

/-- What follows a written number must not read as a part of it. -/
def EndsNumber (tail : List Char) : Prop :=
  ∀ c ∈ tail.head?, isPlainDigit c = false ∧ c ≠ '.' ∧ c ≠ 'e' ∧ c ≠ 'E'

theorem EndsNumber.nil : EndsNumber [] := by
  intro c first
  cases first

theorem EndsNumber.readFraction {tail : List Char} (ends : EndsNumber tail) :
    readFraction tail = none := by
  cases tail with
  | nil => rfl
  | cons c rest =>
    have noPoint := (ends c rfl).2.1
    unfold ShellSurvey.readFraction
    split
    · next same => simp_all
    · rfl

theorem EndsNumber.readExponent {tail : List Char} (ends : EndsNumber tail) :
    readExponent tail = none := by
  cases tail with
  | nil => rfl
  | cons c rest =>
    obtain ⟨_, _, noSmall, noLarge⟩ := ends c rfl
    simp [ShellSurvey.readExponent, noSmall, noLarge]

theorem EndsNumber.wholeDigits {tail : List Char} (ends : EndsNumber tail) (n : Nat) :
    wholeDigits (natDigits n ++ tail) = natDigits n := by
  have all : (natDigits n ++ tail).takeWhile isPlainDigit = natDigits n := by
    rw [List.takeWhile_append_of_pos fun c => isPlainDigit_of_mem_natDigits]
    cases tail with
    | nil => simp
    | cons c rest => simp [(ends c rfl).1]
  obtain ⟨c, rest, shape, _, leading⟩ := natDigits_leading n
  unfold ShellSurvey.wholeDigits
  split
  · next more same =>
    rw [shape, List.cons_append, List.cons.injEq] at same
    rw [shape, leading same.1, same.1]
  · exact all

theorem integerFlaw?_eq_none_iff (n : Int) :
    integerFlaw? n = none ↔ n.natAbs < tenTo integerDigitLimit := by
  rw [← length_natDigits_le_iff n.natAbs (by decide : 0 < integerDigitLimit), ← Nat.not_lt]
  simp [integerFlaw?]

/-- What reading a written value comes to: the value and what follows it, or its first flaw. -/
def readOutcome (flaw : Option JsonFlaw) (value : Json) (tail : List Char) :
    Except JsonFlaw (Json × List Char) :=
  match flaw with
  | some flaw => .error flaw
  | none => .ok (value, tail)

theorem readNumber_written {tail : List Char} (ends : EndsNumber tail) (negative : Bool) (n : Nat) :
    readNumber negative (natDigits n ++ tail) =
      readOutcome (integerFlaw? n) (.int (if negative then -n else n)) tail := by
  obtain ⟨c, rest, shape, _⟩ := natDigits_leading n
  have nonempty : (natDigits n).isEmpty = false := by simp [shape]
  simp only [readNumber, ends.wholeDigits, List.drop_left, nonempty, Bool.false_eq_true, if_false,
    ends.readFraction, ends.readExponent, digitsValue_natDigits, integerFlaw?, Int.natAbs_natCast]
  split <;> rfl

end ShellSurvey
