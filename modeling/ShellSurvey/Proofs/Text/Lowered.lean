import Mathlib.Data.List.Basic
import ShellSurvey.Record.Basic
import ShellSurvey.Text.LowerCase

namespace ShellSurvey

/-- A sign of ASCII that is no letter. -/
def IsSign (c : Char) : Prop := 0 < c.toNat ∧ c.toNat < 0x80 ∧ c.isAlpha = false

instance (c : Char) : Decidable (IsSign c) :=
  inferInstanceAs (Decidable (0 < c.toNat ∧ c.toNat < 0x80 ∧ c.isAlpha = false))

/-- A code of a character that is no sign: a letter, or past ASCII. -/
def IsLetterCode (code : Nat) : Prop :=
  code = 0x6B ∨ 0x80 ≤ code ∧ code < 0xD800 ∨ 0xE000 ≤ code ∧ code < 0x110000

theorem IsLetterCode.ne_sign {code : Nat} (letter : IsLetterCode code) {sign : Char}
    (isSign : IsSign sign) : Char.ofNat code ≠ sign := by
  have valid : code.isValidChar := by
    unfold IsLetterCode at letter
    unfold Nat.isValidChar
    omega
  rintro rfl
  have same : (Char.ofNat code).toNat = code := by
    rw [Char.ofNat, dif_pos valid]
    rfl
  obtain ⟨_, ascii, noLetter⟩ := isSign
  rw [same] at ascii
  have kelvin : code = 0x6B := by
    unfold IsLetterCode at letter
    omega
  rw [kelvin] at noLetter
  exact absurd noLetter (by decide)

/-- Capitals past ASCII have small forms past ASCII, but for the sign of the kelvin. -/
theorem CaseRun.small_cases {run : CaseRun} (member : run ∈ caseRuns) :
    run.last < 0x80 ∨ run.first = run.last ∧ run.small = 0x6B ∨
      0x80 ≤ run.small ∧ run.small + (run.last - run.first) < 0xD800 ∨
      0xE000 ≤ run.small ∧ run.small + (run.last - run.first) < 0x110000 := by
  have checked : caseRuns.all (fun run =>
      run.last < 0x80 || (run.first = run.last && run.small = 0x6B) ||
        (0x80 ≤ run.small && run.small + (run.last - run.first) < 0xD800) ||
        (0xE000 ≤ run.small && run.small + (run.last - run.first) < 0x110000)) = true := by
    decide +kernel
  simpa [or_assoc] using List.all_eq_true.mp checked run member

theorem CaseRun.isLetterCode {run : CaseRun} (member : run ∈ caseRuns) {code : Nat}
    (beyond : 0x80 ≤ code) (covered : run.covers code = true) :
    IsLetterCode (run.small + (code - run.first)) := by
  have known := CaseRun.small_cases member
  simp only [covers, Bool.and_eq_true, decide_eq_true_eq] at covered
  unfold IsLetterCode
  omega

/-- Letters of ASCII have letters for their small forms, and other characters of ASCII have none. -/
theorem toLower_cases {c : Char} (ascii : c.toNat < 0x80) :
    c.isAlpha = true ∧ c.toLower.isAlpha = true ∨ c.toLower = c := by
  have checked : (List.range 0x80).all (fun code =>
      (Char.ofNat code).isAlpha && (Char.ofNat code).toLower.isAlpha ||
        (Char.ofNat code).toLower = Char.ofNat code) = true := by
    decide +kernel
  have here := List.all_eq_true.mp checked c.toNat (List.mem_range.mpr ascii)
  simpa [Char.ofNat_toNat] using here

section

variable {sign : Char} (isSign : IsSign sign)
include isSign

theorem IsSign.smallForm : smallForm sign = [sign] := by
  obtain ⟨_, ascii, noLetter⟩ := isSign
  rw [ShellSurvey.smallForm, if_pos ascii]
  rcases toLower_cases ascii with letter | same
  · rw [letter.1] at noLetter
    cases noLetter
  · rw [same]

/-- Lower case makes a sign of nothing but itself. -/
theorem IsSign.eq_of_mem_smallForm {c : Char} (member : sign ∈ ShellSurvey.smallForm c) :
    c = sign := by
  unfold ShellSurvey.smallForm at member
  split at member
  · next ascii =>
    rw [List.mem_singleton] at member
    rcases toLower_cases ascii with ⟨_, letter⟩ | same
    · rw [← member, isSign.2.2] at letter
      cases letter
    · rw [member, same]
  split at member
  · have noDot : ¬ IsSign 'i' ∧ ¬ IsSign (Char.ofNat 0x307) := by decide
    rcases List.mem_cons.mp member with rfl | mark
    · exact absurd isSign noDot.1
    · rw [List.mem_singleton] at mark
      exact absurd (mark ▸ isSign) noDot.2
  split at member
  · next beyond _ _ run found =>
    have covered := List.find?_some found
    have letter := CaseRun.isLetterCode (List.mem_of_find?_eq_some found)
      (Nat.not_lt.mp beyond) covered
    exact absurd (List.mem_singleton.mp member).symm (letter.ne_sign isSign)
  · exact (List.mem_singleton.mp member).symm

end

/-- The small form of a character next to others. -/
theorem lowerFrom_cons (before : List Char) (c : Char) (rest : List Char) :
    ∃ form, lowerFrom before (c :: rest) = form ++ lowerFrom (c :: before) rest ∧
      (c = 'Σ' ∧ (form = ['σ'] ∨ form = ['ς']) ∨ c ≠ 'Σ' ∧ form = smallForm c) := by
  refine ⟨_, rfl, ?_⟩
  split
  · next sigma =>
    refine Or.inl ⟨sigma, ?_⟩
    split
    · exact Or.inr rfl
    · exact Or.inl rfl
  · next noSigma => exact Or.inr ⟨noSigma, rfl⟩

/-- The end of a text has the lower case that what precedes it gives it. -/
theorem lowerFrom_append (before xs ys : List Char) :
    ∃ front, lowerFrom before (xs ++ ys) = front ++ lowerFrom (xs.reverse ++ before) ys := by
  induction xs generalizing before with
  | nil => exact ⟨[], rfl⟩
  | cons x xs ih =>
    obtain ⟨front, later⟩ := ih (x :: before)
    obtain ⟨form, here, _⟩ := lowerFrom_cons before x (xs ++ ys)
    refine ⟨form ++ front, ?_⟩
    rw [List.cons_append, here, later, List.append_assoc, List.reverse_cons, List.append_assoc]
    rfl

/-- Signs stay where they are. -/
theorem IsSign.lowerFrom_cons {sign : Char} (isSign : IsSign sign) (before rest : List Char) :
    lowerFrom before (sign :: rest) = sign :: lowerFrom (sign :: before) rest := by
  have noSigma : sign ≠ 'Σ' := by
    rintro rfl
    exact absurd isSign (by decide)
  rw [lowerFrom, if_neg noSigma, isSign.smallForm]
  rfl

theorem IsSign.mem_lowerFrom {sign : Char} (isSign : IsSign sign) {before cs : List Char}
    (member : sign ∈ lowerFrom before cs) : sign ∈ cs := by
  induction cs generalizing before with
  | nil => exact member
  | cons c rest ih =>
    obtain ⟨form, lowered, forms⟩ := ShellSurvey.lowerFrom_cons before c rest
    rw [lowered] at member
    rcases List.mem_append.mp member with here | later
    · refine List.mem_cons.mpr (Or.inl ?_)
      rcases forms with ⟨_, rfl | rfl⟩ | ⟨_, rfl⟩
      · exact absurd (List.mem_singleton.mp here ▸ isSign) (by decide)
      · exact absurd (List.mem_singleton.mp here ▸ isSign) (by decide)
      · exact (isSign.eq_of_mem_smallForm here).symm
    · exact List.mem_cons_of_mem _ (ih later)

/-- A text without a small sigma. -/
def SigmaFree (cs : List Char) : Prop := 'σ' ∉ cs ∧ 'ς' ∉ cs

instance (cs : List Char) : Decidable (SigmaFree cs) :=
  inferInstanceAs (Decidable ('σ' ∉ cs ∧ 'ς' ∉ cs))

/-- Without a sigma, what stands before a text does not bear on its lower case. -/
theorem SigmaFree.lowerFrom_eq {before cs : List Char} (free : SigmaFree (lowerFrom before cs))
    (others : List Char) : lowerFrom others cs = lowerFrom before cs := by
  induction cs generalizing before others with
  | nil => rfl
  | cons c rest ih =>
    obtain ⟨form, here, forms⟩ := lowerFrom_cons before c rest
    obtain ⟨otherForm, there, otherForms⟩ := lowerFrom_cons others c rest
    rw [here] at free ⊢
    obtain ⟨noSmall, noFinal⟩ := free
    simp only [List.mem_append, not_or] at noSmall noFinal
    have later := ih ⟨noSmall.2, noFinal.2⟩ (c :: others)
    rcases forms with ⟨_, rfl | rfl⟩ | ⟨noSigma, rfl⟩
    · exact absurd (List.mem_singleton.mpr rfl) noSmall.1
    · exact absurd (List.mem_singleton.mpr rfl) noFinal.1
    · rcases otherForms with ⟨sigma, _⟩ | ⟨_, rfl⟩
      · exact absurd sigma noSigma
      · rw [there, later]

/-- The extension starts at the last dot. -/
theorem extensionOf_append {name : String} {front suffix : List Char}
    (parts : name.toList = front ++ '.' :: suffix) (dotless : '.' ∉ suffix) :
    (extensionOf name).toList = '.' :: suffix := by
  have fromEnd : name.toList.reverse = suffix.reverse ++ '.' :: front.reverse := by
    simp [parts]
  have beforeDot : (name.toList.reverse.takeWhile (· ≠ '.')) = suffix.reverse := by
    have inside : ∀ c ∈ suffix.reverse, decide (c ≠ '.') = true := by
      intro c member
      refine decide_eq_true ?_
      rintro rfl
      exact dotless (List.mem_reverse.mp member)
    rw [fromEnd, List.takeWhile_append_of_pos inside]
    simp
  have dotted : name.toList.reverse.contains '.' = true := by
    simp [parts]
  unfold extensionOf
  dsimp only
  rw [if_pos dotted, beforeDot, String.toList_ofList, List.reverse_reverse]

theorem extensionOf_cases (name : String) :
    '.' ∉ name.toList ∧ extensionOf name = "" ∨
      ∃ front suffix, name.toList = front ++ '.' :: suffix ∧ '.' ∉ suffix := by
  by_cases dotted : '.' ∈ name.toList
  · obtain ⟨suffix, front, parts, dotless⟩ :=
      List.eq_append_cons_of_mem (List.mem_reverse.mpr dotted)
    refine Or.inr ⟨front.reverse, suffix.reverse, ?_, fun member => ?_⟩
    · rw [← List.reverse_reverse name.toList, parts]
      simp
    · exact dotless (List.mem_reverse.mp member)
  · refine Or.inl ⟨dotted, ?_⟩
    unfold extensionOf
    simp [dotted]

/-- Of a name in lower case, the extension is that of the name, in the lower case that its place in the
name gives it. -/
theorem extensionOf_lowerCase (name : String) : ∃ before,
    (extensionOf (lowerCase name)).toList = lowerFrom before (extensionOf name).toList := by
  have dot : IsSign '.' := by decide
  have whole : (lowerCase name).toList = lowerFrom [] name.toList := String.toList_ofList
  rcases extensionOf_cases name with ⟨dotless, none⟩ | ⟨front, suffix, parts, dotless⟩
  · refine ⟨[], ?_⟩
    rcases extensionOf_cases (lowerCase name) with ⟨_, lowerNone⟩ | ⟨front, suffix, parts, _⟩
    · rw [none, lowerNone]
      rfl
    · have dotted : '.' ∈ lowerFrom [] name.toList := by
        rw [← whole, parts]
        exact List.mem_append_right _ List.mem_cons_self
      exact absurd (dot.mem_lowerFrom dotted) dotless
  · obtain ⟨lowerFront, lowered⟩ := lowerFrom_append [] front ('.' :: suffix)
    refine ⟨front.reverse ++ [], ?_⟩
    have cut := dot.lowerFrom_cons (front.reverse ++ []) suffix
    have lowerParts : (lowerCase name).toList =
        lowerFront ++ '.' :: lowerFrom ('.' :: (front.reverse ++ [])) suffix := by
      rw [whole, parts, lowered, cut]
    rw [extensionOf_append parts dotless, cut]
    exact extensionOf_append lowerParts fun dotted => dotless (dot.mem_lowerFrom dotted)

/-- A key without a small sigma is met by the extension in lower case exactly if it is met by the
extension of the name in lower case. -/
theorem lowerCase_extensionOf_eq_iff {key : String} (free : SigmaFree key.toList) (name : String) :
    lowerCase (extensionOf name) = key ↔ extensionOf (lowerCase name) = key := by
  obtain ⟨before, lowered⟩ := extensionOf_lowerCase name
  have alone : (lowerCase (extensionOf name)).toList = lowerFrom [] (extensionOf name).toList :=
    String.toList_ofList
  rw [← String.toList_inj, ← String.toList_inj, lowered, alone]
  constructor
  · intro same
    rw [← same] at free ⊢
    exact free.lowerFrom_eq before
  · intro same
    rw [← same] at free ⊢
    exact free.lowerFrom_eq []

theorem extensionOf_eq_empty_iff (name : String) : extensionOf name = "" ↔ '.' ∉ name.toList := by
  rcases extensionOf_cases name with ⟨dotless, none⟩ | ⟨front, suffix, parts, dotless⟩
  · exact ⟨fun _ => dotless, fun _ => none⟩
  · have cut := extensionOf_append parts dotless
    constructor
    · intro empty
      rw [empty] at cut
      cases cut
    · intro undotted
      rw [parts] at undotted
      exact absurd (List.mem_append_right _ List.mem_cons_self) undotted

theorem IsSign.mem_lowerCase_iff {sign : Char} (isSign : IsSign sign) (name : String) :
    sign ∈ (lowerCase name).toList ↔ sign ∈ name.toList := by
  have whole : (lowerCase name).toList = lowerFrom [] name.toList := String.toList_ofList
  rw [whole]
  refine ⟨isSign.mem_lowerFrom, fun member => ?_⟩
  obtain ⟨front, rest, parts⟩ := List.append_of_mem member
  obtain ⟨lowerFront, lowered⟩ := lowerFrom_append [] front (sign :: rest)
  rw [parts, lowered, isSign.lowerFrom_cons]
  exact List.mem_append_right _ List.mem_cons_self

theorem smallForm_ne_nil (c : Char) : smallForm c ≠ [] := by
  unfold smallForm
  repeat' split
  all_goals exact List.cons_ne_nil _ _

/-- No character gets lost. -/
theorem length_le_lowerFrom (before cs : List Char) :
    cs.length ≤ (lowerFrom before cs).length := by
  induction cs generalizing before with
  | nil => exact Nat.zero_le _
  | cons c cs ih =>
    obtain ⟨form, lowered, shape⟩ := lowerFrom_cons before c cs
    have some : 0 < form.length := by
      rcases shape with ⟨_, rfl | rfl⟩ | ⟨_, rfl⟩
      · exact Nat.one_pos
      · exact Nat.one_pos
      · exact List.length_pos_iff.mpr (smallForm_ne_nil c)
    have later := ih (c :: before)
    rw [lowered, List.length_append, List.length_cons]
    omega

theorem eq_nil_of_lowerFrom_eq_nil {before cs : List Char} (lowered : lowerFrom before cs = []) :
    cs = [] := by
  have longer := length_le_lowerFrom before cs
  rw [lowered, List.length_nil] at longer
  exact List.length_eq_zero_iff.mp (Nat.le_zero.mp longer)

theorem lowerFrom_ne_nil (before : List Char) (c : Char) : lowerFrom before [c] ≠ [] :=
  fun lowered => List.cons_ne_nil _ _ (eq_nil_of_lowerFrom_eq_nil lowered)

/-- A sign alone is the lower case of nothing else. -/
theorem IsSign.eq_of_lowerFrom_eq {sign : Char} (isSign : IsSign sign) {before cs : List Char}
    (lowered : lowerFrom before cs = [sign]) : cs = [sign] := by
  have lowerMember : sign ∈ lowerFrom before cs := by
    rw [lowered]
    exact List.mem_singleton.mpr rfl
  have member := isSign.mem_lowerFrom lowerMember
  have longer := length_le_lowerFrom before cs
  rw [lowered, List.length_singleton] at longer
  obtain ⟨c, single⟩ := List.length_eq_one_iff.mp
    (Nat.le_antisymm longer (List.length_pos_of_mem member))
  rw [single, List.mem_singleton] at member
  rw [single, member]

/-- Small letters of ASCII stay where they are. -/
theorem lowerFrom_small {c : Char} (ascii : c.toNat < 0x80) (small : c.toLower = c)
    (before rest : List Char) :
    lowerFrom before (c :: rest) = c :: lowerFrom (c :: before) rest := by
  have noSigma : c ≠ 'Σ' := by
    rintro rfl
    exact absurd ascii (by decide)
  rw [lowerFrom, if_neg noSigma, smallForm, if_pos ascii, small]
  rfl

/-- A word in lower case at the front stays where it is. -/
theorem lowerFrom_small_append {word : List Char}
    (small : word.all fun c => decide (c.toNat < 0x80 ∧ c.toLower = c)) (before rest : List Char) :
    lowerFrom before (word ++ rest) = word ++ lowerFrom (word.reverse ++ before) rest := by
  induction word generalizing before with
  | nil => rfl
  | cons c word ih =>
    rw [List.all_cons, Bool.and_eq_true, decide_eq_true_eq] at small
    obtain ⟨⟨ascii, same⟩, later⟩ := small
    rw [List.cons_append, lowerFrom_small ascii same, ih later, List.reverse_cons,
      List.append_assoc, List.singleton_append, List.cons_append]

/-- A name ends with a sign exactly if its lower case does. -/
theorem IsSign.getLast?_lowerCase_iff {sign : Char} (isSign : IsSign sign) (name : String) :
    (lowerCase name).toList.getLast? = some sign ↔ name.toList.getLast? = some sign := by
  have whole : (lowerCase name).toList = lowerFrom [] name.toList := String.toList_ofList
  rw [whole]
  rcases List.eq_nil_or_concat name.toList with empty | ⟨front, c, parts⟩
  · rw [empty]
    rfl
  · obtain ⟨lowerFront, lowered⟩ := lowerFrom_append [] front [c]
    rw [List.append_nil] at lowered
    rw [parts, List.concat_eq_append, lowered]
    by_cases same : c = sign
    · rw [same, isSign.lowerFrom_cons, lowerFrom]
      simp
    · obtain ⟨last, ends⟩ := Option.ne_none_iff_exists'.mp
        (mt List.getLast?_eq_none_iff.mp (lowerFrom_ne_nil front.reverse c))
      have different : last ≠ sign := by
        rintro rfl
        have member := isSign.mem_lowerFrom (List.mem_of_getLast? ends)
        exact same (List.mem_singleton.mp member).symm
      simp [ends, different, same]

end ShellSurvey
