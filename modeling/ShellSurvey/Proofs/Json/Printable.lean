import ShellSurvey.Proofs.Json.RoundTrip

namespace ShellSurvey

def Printable (c : Char) : Prop := 0x20 ≤ c.toNat ∧ c.toNat ≤ 0x7E

instance (c : Char) : Decidable (Printable c) := inferInstanceAs (Decidable (_ ∧ _))

theorem printable_of_all {cs : List Char} (all : cs.all (fun c => decide (Printable c)) = true) :
    ∀ c ∈ cs, Printable c :=
  fun c member => of_decide_eq_true (List.all_eq_true.mp all c member)

/-- A character that values are written with. -/
def Layout.Admits (layout : Layout) (c : Char) : Prop :=
  Printable c ∨ layout = .indented ∧ c = '\n'

def Layout.AdmitsAll (layout : Layout) (cs : List Char) : Prop := ∀ c ∈ cs, layout.Admits c

section

variable (layout : Layout)

theorem Layout.admitsAll_cons {c : Char} {cs : List Char} :
    layout.AdmitsAll (c :: cs) ↔ layout.Admits c ∧ layout.AdmitsAll cs :=
  List.forall_mem_cons

theorem Layout.admitsAll_append {cs ds : List Char} :
    layout.AdmitsAll (cs ++ ds) ↔ layout.AdmitsAll cs ∧ layout.AdmitsAll ds :=
  List.forall_mem_append

theorem Layout.admitsAll_printable {cs : List Char} (printable : ∀ c ∈ cs, Printable c) :
    layout.AdmitsAll cs :=
  fun c member => Or.inl (printable c member)

theorem Layout.admitsAll_lineBreak (depth : Nat) : layout.AdmitsAll (layout.lineBreak depth) := by
  cases layout with
  | compact => exact List.forall_mem_nil _
  | indented =>
    refine (admitsAll_cons _).mpr ⟨Or.inr ⟨rfl, rfl⟩, fun c member => ?_⟩
    exact Or.inl (List.eq_of_mem_replicate member ▸ by decide)

theorem Layout.admitsAll_colon : layout.AdmitsAll layout.colon := by
  refine admitsAll_printable layout (printable_of_all ?_)
  cases layout <;> decide

end

theorem printable_hexDigits (width n : Nat) : ∀ c ∈ hexDigits width n, Printable c := by
  induction width generalizing n with
  | zero => exact List.forall_mem_nil _
  | succ width ih =>
    have digit : ∀ k : Fin 16, Printable (hexDigit k.val) := by decide
    intro c member
    rw [hexDigits, List.mem_append, List.mem_singleton] at member
    rcases member with earlier | rfl
    · exact ih _ c earlier
    · exact digit ⟨n % 16, Nat.mod_lt n (by decide)⟩

theorem printable_escapedUnit (unit : Nat) : ∀ c ∈ escapedUnit unit, Printable c := by
  rw [escapedUnit, List.forall_mem_cons, List.forall_mem_cons]
  exact ⟨by decide, by decide, printable_hexDigits 4 unit⟩

/-- Whatever a character is, it is written printably. -/
theorem printable_jsonChar (c : Char) : ∀ d ∈ jsonChar c, Printable d := by
  unfold jsonChar
  iterate 7
    split
    · exact printable_of_all (by decide)
  split
  · next printable => exact List.forall_mem_singleton.mpr printable
  split
  · exact printable_escapedUnit c.toNat
  · exact List.forall_mem_append.mpr ⟨printable_escapedUnit _, printable_escapedUnit _⟩

theorem printable_intDigits (n : Int) : ∀ c ∈ intDigits n, Printable c := by
  have digits (n : Nat) : ∀ c ∈ natDigits n, Printable c := by
    intro c member
    have digit := isPlainDigit_of_mem_natDigits member
    simp only [isPlainDigit, decide_eq_true_eq, Bool.and_eq_true] at digit
    obtain ⟨low, high⟩ := digit
    have above : '0'.toNat ≤ c.toNat := low
    have below : c.toNat ≤ '9'.toNat := high
    simp only [Printable]
    have zero : '0'.toNat = 48 := rfl
    have nine : '9'.toNat = 57 := rfl
    omega
  cases n with
  | ofNat n => exact digits n
  | negSucc n => exact List.forall_mem_cons.mpr ⟨by decide, digits (n + 1)⟩

variable (layout : Layout)

theorem admitsAll_jsonStringOnto (text : String) {tail : List Char}
    (rest : layout.AdmitsAll tail) : layout.AdmitsAll (jsonStringOnto text tail) := by
  have quote : layout.Admits '\x22' := Or.inl (by decide)
  have inside : layout.AdmitsAll (text.toList.flatMap jsonChar) := by
    intro d member
    obtain ⟨c, _, written⟩ := List.mem_flatMap.mp member
    exact Or.inl (printable_jsonChar c d written)
  rw [jsonStringOnto, Layout.admitsAll_cons, Layout.admitsAll_append, Layout.admitsAll_cons]
  exact ⟨quote, inside, quote, rest⟩

mutual

theorem Json.admitsAll_renderOnto (value : Json) (tidy : value.Tidy) (depth : Nat)
    {tail : List Char} (rest : layout.AdmitsAll tail) :
    layout.AdmitsAll (value.renderOnto layout depth tail) := by
  have literal {cs : List Char} (printable : ∀ c ∈ cs, Printable c) :
      layout.AdmitsAll (cs ++ tail) :=
    (layout.admitsAll_append).mpr ⟨layout.admitsAll_printable printable, rest⟩
  have opening (c : Char) (printable : Printable c) {cs : List Char} (inner : layout.AdmitsAll cs) :
      layout.AdmitsAll (c :: cs) :=
    (layout.admitsAll_cons).mpr ⟨Or.inl printable, inner⟩
  have broken (depth : Nat) {cs : List Char} (inner : layout.AdmitsAll cs) :
      layout.AdmitsAll (layout.lineBreak depth ++ cs) :=
    (layout.admitsAll_append).mpr ⟨layout.admitsAll_lineBreak depth, inner⟩
  match value with
  | .null => exact literal (printable_of_all (by decide))
  | .bool true => exact literal (printable_of_all (by decide))
  | .bool false => exact literal (printable_of_all (by decide))
  | .int n => exact literal (printable_intDigits n)
  | .float x => exact tidy.elim
  | .str s => exact admitsAll_jsonStringOnto layout s rest
  | .arr [] => exact literal (printable_of_all (by decide : ['[', ']'].all _ = true))
  | .obj [] => exact literal (printable_of_all (by decide : ['\x7b', '\x7d'].all _ = true))
  | .arr (x :: xs) =>
    obtain ⟨tidyHead, tidyRest⟩ := tidy
    have ending := broken depth (opening ']' (by decide) rest)
    exact opening '[' (by decide) (broken (depth + 1)
      (x.admitsAll_renderOnto tidyHead (depth + 1)
        (admitsAll_renderElementsOnto xs tidyRest (depth + 1) ending)))
  | .obj ((name, value) :: members) =>
    obtain ⟨_, tidyHead, tidyRest⟩ := tidy
    have ending := broken depth (opening '\x7d' (by decide) rest)
    have later := value.admitsAll_renderOnto tidyHead (depth + 1)
      (admitsAll_renderMembersOnto members tidyRest (depth + 1) ending)
    exact opening '\x7b' (by decide) (broken (depth + 1) (admitsAll_jsonStringOnto layout name
      ((layout.admitsAll_append).mpr ⟨layout.admitsAll_colon, later⟩)))

theorem admitsAll_renderElementsOnto (elements : List Json) (tidy : ElementsTidy elements)
    (depth : Nat) {tail : List Char} (rest : layout.AdmitsAll tail) :
    layout.AdmitsAll (renderElementsOnto layout depth elements tail) := by
  match elements with
  | [] => exact rest
  | x :: xs =>
    obtain ⟨tidyHead, tidyRest⟩ := tidy
    have later := x.admitsAll_renderOnto tidyHead depth
      (admitsAll_renderElementsOnto xs tidyRest depth rest)
    rw [renderElementsOnto, Layout.admitsAll_cons, Layout.admitsAll_append]
    exact ⟨Or.inl (by decide), layout.admitsAll_lineBreak depth, later⟩

theorem admitsAll_renderMembersOnto (members : Members) (tidy : MembersTidy members)
    (depth : Nat) {tail : List Char} (rest : layout.AdmitsAll tail) :
    layout.AdmitsAll (renderMembersOnto layout depth members tail) := by
  match members with
  | [] => exact rest
  | (name, value) :: members =>
    obtain ⟨tidyHead, tidyRest⟩ := tidy
    have later := value.admitsAll_renderOnto tidyHead depth
      (admitsAll_renderMembersOnto members tidyRest depth rest)
    rw [renderMembersOnto, Layout.admitsAll_cons, Layout.admitsAll_append]
    exact ⟨Or.inl (by decide), layout.admitsAll_lineBreak depth,
      admitsAll_jsonStringOnto layout name
        ((layout.admitsAll_append).mpr ⟨layout.admitsAll_colon, later⟩)⟩

end

theorem Json.admitsAll_text {value : Json} (tidy : value.Tidy) :
    layout.AdmitsAll (value.text layout).toList := by
  rw [Json.text, String.toList_ofList, Json.render]
  exact value.admitsAll_renderOnto layout tidy 0 (List.forall_mem_nil _)

/-- What is written on one line holds no line break. -/
theorem Json.lineFeed_not_mem_text {value : Json} (tidy : value.Tidy) :
    '\n' ∉ (value.text .compact).toList := by
  intro member
  rcases admitsAll_text .compact tidy _ member with printable | ⟨indented, _⟩
  · exact absurd printable (by decide)
  · cases indented

end ShellSurvey
