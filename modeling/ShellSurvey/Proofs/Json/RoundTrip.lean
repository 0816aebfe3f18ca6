import ShellSurvey.Proofs.Json.Scalars

namespace ShellSurvey

mutual

/-- Values without floating point numbers in which every object names each of its members once. -/
def Json.Tidy : Json → Prop
  | .float _ => False
  | .arr elements => ElementsTidy elements
  | .obj members => (members.map Prod.fst).Nodup ∧ MembersTidy members
  | .null => True
  | .bool _ => True
  | .int _ => True
  | .str _ => True

def ElementsTidy : List Json → Prop
  | [] => True
  | x :: xs => x.Tidy ∧ ElementsTidy xs

def MembersTidy : Members → Prop
  | [] => True
  | (_, value) :: rest => value.Tidy ∧ MembersTidy rest

end

/-- What follows an element of an array at a depth: the other elements and the closing bracket. -/
def afterElement (layout : Layout) (depth outer : Nat) (xs : List Json) (tail : List Char) :
    List Char :=
  renderElementsOnto layout depth xs (layout.lineBreak outer ++ ']' :: tail)

/-- What follows a member of an object at a depth: the other members and the closing brace. -/
def afterMember (layout : Layout) (depth outer : Nat) (rest : Members) (tail : List Char) :
    List Char :=
  renderMembersOnto layout depth rest (layout.lineBreak outer ++ '\x7d' :: tail)

/-- A member in front of what follows. -/
def memberOnto (layout : Layout) (depth : Nat) (name : String) (value : Json) (tail : List Char) :
    List Char :=
  jsonStringOnto name (layout.colon ++ value.renderOnto layout depth tail)

/-- A text that starts with a visible character, which closes no array. -/
def StartsVisibly (cs : List Char) : Prop :=
  ∃ c rest, cs = c :: rest ∧ isJsonSpace c = false ∧ c ≠ ']'

variable (layout : Layout)

theorem skipSpace_lineBreak (depth : Nat) (cs : List Char) :
    skipSpace (layout.lineBreak depth ++ cs) = skipSpace cs := by
  cases layout with
  | compact => rfl
  | indented =>
    have spaces : ∀ c ∈ List.replicate (2 * depth) ' ', isJsonSpace c = true := by
      intro c member
      rw [List.eq_of_mem_replicate member]
      rfl
    have newline : isJsonSpace '\n' = true := rfl
    simp only [skipSpace, Layout.lineBreak, List.cons_append, List.dropWhile_cons, newline, if_true]
    rw [List.dropWhile_append_of_pos spaces]

theorem skipSpace_visible {c : Char} (noSpace : isJsonSpace c = false) (cs : List Char) :
    skipSpace (c :: cs) = c :: cs := by
  simp [skipSpace, noSpace]

theorem StartsVisibly.skipSpace {cs : List Char} (visible : StartsVisibly cs) :
    skipSpace cs = cs := by
  obtain ⟨c, rest, rfl, noSpace, _⟩ := visible
  exact skipSpace_visible noSpace rest

theorem Json.Tidy.startsVisibly {value : Json} (tidy : value.Tidy) (depth : Nat)
    (tail : List Char) : StartsVisibly (value.renderOnto layout depth tail) := by
  have visible {c : Char} (rest : List Char) (noSpace : isJsonSpace c = false) (noEnd : c ≠ ']') :
      StartsVisibly (c :: rest) := ⟨c, rest, rfl, noSpace, noEnd⟩
  cases value with
  | null => exact visible _ rfl (by decide)
  | bool b => cases b <;> exact visible _ rfl (by decide)
  | float x => exact tidy.elim
  | str s => exact visible _ rfl (by decide)
  | arr elements => cases elements <;> exact visible _ rfl (by decide)
  | obj members => cases members <;> exact visible _ rfl (by decide)
  | int n =>
    cases n with
    | negSucc n => exact visible _ rfl (by decide)
    | ofNat n =>
      obtain ⟨c, rest, shape, digit, _⟩ := natDigits_leading n
      refine ⟨c, rest ++ tail, ?_, ?_, ?_⟩
      · simp [Json.renderOnto, intDigits, shape]
      · simp only [isJsonSpace, Bool.or_eq_false_iff, decide_eq_false_iff_not]
        refine ⟨⟨⟨?_, ?_⟩, ?_⟩, ?_⟩ <;> rintro rfl <;> exact absurd digit (by decide)
      · rintro rfl
        exact absurd digit (by decide)

theorem Json.Tidy.lengthens {value : Json} (tidy : value.Tidy) (depth : Nat) (tail : List Char) :
    tail.length < (value.renderOnto layout depth tail).length := by
  obtain ⟨c, rest, shape, _⟩ := tidy.startsVisibly layout depth []
  rw [Json.renderOnto_eq, Json.render, shape]
  simp only [List.length_append, List.length_cons]
  omega

theorem endsNumber_lineBreak (depth : Nat) {c : Char} (rest : List Char) (ends : EndsNumber [c]) :
    EndsNumber (layout.lineBreak depth ++ c :: rest) := by
  cases layout with
  | compact => exact ends
  | indented => intro c first; cases first; decide

theorem endsNumber_afterElement (depth outer : Nat) (xs : List Json) (tail : List Char) :
    EndsNumber (afterElement layout depth outer xs tail) := by
  cases xs with
  | nil => exact endsNumber_lineBreak layout outer tail (by intro c first; cases first; decide)
  | cons x xs => intro c first; cases first; decide

theorem endsNumber_afterMember (depth outer : Nat) (rest : Members) (tail : List Char) :
    EndsNumber (afterMember layout depth outer rest tail) := by
  cases rest with
  | nil => exact endsNumber_lineBreak layout outer tail (by intro c first; cases first; decide)
  | cons head rest => intro c first; cases first; decide

theorem skipSpace_colon {cs : List Char} (visible : StartsVisibly cs) :
    ∃ gap, layout.colon = ':' :: gap ∧ skipSpace (gap ++ cs) = cs := by
  cases layout with
  | compact => exact ⟨[], rfl, visible.skipSpace⟩
  | indented => exact ⟨[' '], rfl, visible.skipSpace⟩

theorem setMember_fresh {name : String} {value : Json} {done : Members}
    (fresh : name ∉ done.map Prod.fst) : setMember name value done = done ++ [(name, value)] := by
  induction done with
  | nil => rfl
  | cons head rest ih =>
    obtain ⟨known, old⟩ := head
    simp only [List.map_cons, List.mem_cons, not_or] at fresh
    rw [setMember, if_neg (Ne.symm fresh.1), ih fresh.2, List.cons_append]

theorem readValue_digit {c : Char} (digit : isPlainDigit c = true) (fuel room : Nat)
    (rest : List Char) : readValue (fuel + 1) room (c :: rest) = readNumber false (c :: rest) := by
  unfold readValue
  split <;> simp_all [isPlainDigit]

theorem readValue_minus {c : Char} (digit : isPlainDigit c = true) (fuel room : Nat)
    (rest : List Char) :
    readValue (fuel + 1) room ('-' :: c :: rest) = readNumber true (c :: rest) := by
  have noInfinity : c ≠ 'I' := by
    rintro rfl
    simp [isPlainDigit] at digit
  unfold readValue
  split <;> simp_all

theorem readValue_int (n : Int) (fuel room : Nat) {tail : List Char} (ends : EndsNumber tail) :
    readValue (fuel + 1) room (intDigits n ++ tail) =
      readOutcome (integerFlaw? n) (.int n) tail := by
  cases n with
  | ofNat n =>
    obtain ⟨c, rest, shape, digit, _⟩ := natDigits_leading n
    have number := readNumber_written ends false n
    rw [shape, List.cons_append] at number
    rw [intDigits, shape, List.cons_append, readValue_digit digit, number]
    rfl
  | negSucc n =>
    obtain ⟨c, rest, shape, digit, _⟩ := natDigits_leading (n + 1)
    have number := readNumber_written ends true (n + 1)
    rw [shape, List.cons_append] at number
    rw [intDigits, shape, List.cons_append, List.cons_append, readValue_minus digit, number]
    rfl

theorem readValue_array (depth fuel room : Nat) {cs : List Char} (visible : StartsVisibly cs) :
    readValue (fuel + 1) (room + 1) ('[' :: (layout.lineBreak depth ++ cs)) =
      readElements fuel room [] cs := by
  unfold readValue
  simp only [skipSpace_lineBreak, visible.skipSpace]
  obtain ⟨c, rest, rfl, _, noEnd⟩ := visible
  split <;> simp_all

theorem readValue_object (depth fuel room : Nat) (name : String) (tail : List Char) :
    readValue (fuel + 1) (room + 1) ('\x7b' :: (layout.lineBreak depth ++ jsonStringOnto name tail)) =
      readMembers fuel room [] (jsonStringOnto name tail) := by
  unfold readValue
  simp only [skipSpace_lineBreak]
  rfl

-- The readers call each other with one unit of fuel less each, and every second call takes a
-- character, so twice the length of the text is enough.
mutual

theorem readValue_written (value : Json) (tidy : value.Tidy) (depth room : Nat)
    {tail : List Char} (ends : EndsNumber tail) (fuel : Nat)
    (enough : 2 * (value.renderOnto layout depth tail).length < fuel) :
    readValue fuel room (value.renderOnto layout depth tail) =
      readOutcome (value.flaw? room) value tail := by
  obtain ⟨fuel, rfl⟩ : ∃ more, fuel = more + 1 := ⟨fuel - 1, by omega⟩
  match value with
  | .null => rfl
  | .bool b => cases b <;> rfl
  | .int n => exact readValue_int n fuel room ends
  | .float x => exact tidy.elim
  | .str s =>
    rw [Json.renderOnto] at enough ⊢
    have read := readString_written s tail (show _ ≤ fuel by omega)
    rw [jsonStringOnto, readValue, read]
    rfl
  | .arr [] => cases room <;> rfl
  | .obj [] => cases room <;> rfl
  | .arr (x :: xs) =>
    cases room with
    | zero => rfl
    | succ room =>
      rw [Json.renderOnto] at enough ⊢
      rw [readValue_array layout _ fuel room (Json.Tidy.startsVisibly layout tidy.1 _ _), Json.flaw?]
      refine readElements_written x xs tidy (depth + 1) depth room [] tail fuel ?_
      simp only [List.length_cons, List.length_append] at enough
      simp only [afterElement]
      omega
  | .obj ((name, value) :: rest) =>
    cases room with
    | zero => rfl
    | succ room =>
      rw [Json.renderOnto] at enough ⊢
      rw [readValue_object, Json.flaw?]
      refine readMembers_written name value rest tidy.2 (depth + 1) depth room [] tail tidy.1 fuel ?_
      simp only [List.length_cons, List.length_append] at enough
      simp only [memberOnto, afterMember]
      omega
termination_by fuel
decreasing_by all_goals omega

theorem readElements_written (x : Json) (xs : List Json) (tidy : ElementsTidy (x :: xs))
    (depth outer room : Nat) (done : List Json) (tail : List Char) (fuel : Nat)
    (enough : 2 * (x.renderOnto layout depth (afterElement layout depth outer xs tail)).length + 1 <
      fuel) :
    readElements fuel room done (x.renderOnto layout depth (afterElement layout depth outer xs tail)) =
      readOutcome (elementsFlaw? room (x :: xs)) (.arr (done.reverse ++ x :: xs)) tail := by
  obtain ⟨fuel, rfl⟩ : ∃ more, fuel = more + 1 := ⟨fuel - 1, by omega⟩
  obtain ⟨tidyHead, tidyRest⟩ := tidy
  have shorter := tidyHead.lengthens layout depth (afterElement layout depth outer xs tail)
  have head := readValue_written x tidyHead depth room
    (endsNumber_afterElement layout depth outer xs tail) fuel (by omega)
  rw [readElements, head, elementsFlaw?]
  cases x.flaw? room with
  | some flaw => rfl
  | none =>
    simp only [readOutcome, Option.none_or, bind, Except.bind]
    cases xs with
    | nil =>
      rw [afterElement, renderElementsOnto, skipSpace_lineBreak, skipSpace_visible (by rfl)]
      simp [elementsFlaw?, pure, Except.pure]
    | cons y ys =>
      have comma : afterElement layout depth outer (y :: ys) tail = ',' :: (layout.lineBreak depth ++
          y.renderOnto layout depth (afterElement layout depth outer ys tail)) := rfl
      rw [comma] at shorter enough ⊢
      simp only [List.length_cons, List.length_append] at shorter
      have later := readElements_written y ys tidyRest depth outer room (x :: done) tail
        fuel (by omega)
      have visible := tidyRest.1.startsVisibly layout depth (afterElement layout depth outer ys tail)
      rw [skipSpace_visible (by rfl)]
      simp only [skipSpace_lineBreak, visible.skipSpace, later, readOutcome]
      simp
termination_by fuel
decreasing_by all_goals omega

theorem readMembers_written (name : String) (value : Json) (rest : Members)
    (tidy : MembersTidy ((name, value) :: rest)) (depth outer room : Nat) (done : Members)
    (tail : List Char) (fresh : ((done ++ (name, value) :: rest).map Prod.fst).Nodup) (fuel : Nat)
    (enough : 2 * (memberOnto layout depth name value
      (afterMember layout depth outer rest tail)).length + 1 < fuel) :
    readMembers fuel room done (memberOnto layout depth name value
      (afterMember layout depth outer rest tail)) =
      readOutcome (membersFlaw? room ((name, value) :: rest)) (.obj (done ++ (name, value) :: rest))
        tail := by
  obtain ⟨fuel, rfl⟩ : ∃ more, fuel = more + 1 := ⟨fuel - 1, by omega⟩
  obtain ⟨tidyHead, tidyRest⟩ := tidy
  have shorter := tidyHead.lengthens layout depth (afterMember layout depth outer rest tail)
  have visible := tidyHead.startsVisibly layout depth (afterMember layout depth outer rest tail)
  obtain ⟨gap, colon, skipped⟩ := skipSpace_colon layout visible
  rw [memberOnto] at enough ⊢
  have spelt := readString_written name (layout.colon ++ value.renderOnto layout depth
    (afterMember layout depth outer rest tail)) (show _ ≤ fuel by omega)
  simp only [jsonStringOnto, List.length_cons, List.length_append] at enough
  have head := readValue_written value tidyHead depth room
    (endsNumber_afterMember layout depth outer rest tail) fuel (by omega)
  have added : setMember name value done = done ++ [(name, value)] := by
    refine setMember_fresh fun known => ?_
    rw [List.map_append, List.nodup_append] at fresh
    exact fresh.2.2 name known name List.mem_cons_self rfl
  rw [jsonStringOnto, readMembers, spelt, membersFlaw?]
  simp only [bind, Except.bind, colon, List.cons_append, skipSpace_visible (c := ':') rfl, skipped,
    head]
  cases value.flaw? room with
  | some flaw => rfl
  | none =>
    simp only [readOutcome, Option.none_or]
    cases rest with
    | nil =>
      rw [afterMember, renderMembersOnto, skipSpace_lineBreak, skipSpace_visible (by rfl)]
      simp [membersFlaw?, pure, Except.pure, added]
    | cons next rest =>
      obtain ⟨following, next⟩ := next
      have comma : afterMember layout depth outer ((following, next) :: rest) tail =
          ',' :: (layout.lineBreak depth ++ memberOnto layout depth following next
            (afterMember layout depth outer rest tail)) := rfl
      have quote : skipSpace (memberOnto layout depth following next
          (afterMember layout depth outer rest tail)) = memberOnto layout depth following next
            (afterMember layout depth outer rest tail) := rfl
      rw [comma] at shorter enough ⊢
      simp only [List.length_cons, List.length_append] at shorter
      have later := readMembers_written following next rest tidyRest depth outer room
        (done ++ [(name, value)]) tail (by simpa using fresh) fuel (by omega)
      rw [skipSpace_visible (by rfl)]
      simp only [skipSpace_lineBreak, quote, added, later, readOutcome]
      simp
termination_by fuel
decreasing_by all_goals omega

end

/-- A tidy value is read as it was written, or its first flaw is reported. -/
theorem Json.parse_text (value : Json) (tidy : value.Tidy) (limit : Nat) :
    Json.parse limit (value.text layout) =
      match value.flaw? limit with
      | some flaw => .error flaw
      | none => .ok value := by
  have visible := tidy.startsVisibly layout 0 []
  have read := readValue_written layout value tidy 0 limit EndsNumber.nil
    (2 * (value.renderOnto layout 0 []).length + 2) (by omega)
  rw [Json.parse, Json.text, Json.render, String.toList_ofList, visible.skipSpace, read]
  cases value.flaw? limit <;> rfl

end ShellSurvey
