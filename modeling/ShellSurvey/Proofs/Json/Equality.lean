import ShellSurvey.Proofs.Lexicon.Namesakes
import ShellSurvey.Proofs.Number.Size

namespace ShellSurvey

/-- Induction over values: what holds of a collection may be shown from what holds of its items. -/
@[elab_as_elim]
theorem Json.inductionOn {motive : Json → Prop} (value : Json)
    (scalar : ∀ value, (∀ elements, value ≠ .arr elements) → (∀ members, value ≠ .obj members) →
      motive value)
    (arr : ∀ elements : List Json, (∀ element ∈ elements, motive element) → motive (.arr elements))
    (obj : ∀ members : Members, (∀ member ∈ members, motive member.2) → motive (.obj members)) :
    motive value := by
  refine @Json.rec motive (fun elements => ∀ element ∈ elements, motive element)
    (fun members => ∀ member ∈ members, motive member.2) (fun member => motive member.2)
    ?null ?bool ?int ?float ?str arr obj ?noElement ?element ?noMember ?member
    (fun _ _ here => here) value
  case null => exact scalar _ (by simp) (by simp)
  case bool => exact fun _ => scalar _ (by simp) (by simp)
  case int => exact fun _ => scalar _ (by simp) (by simp)
  case float => exact fun _ => scalar _ (by simp) (by simp)
  case str => exact fun _ => scalar _ (by simp) (by simp)
  case noElement => exact List.forall_mem_nil _
  case element => exact fun _ _ here later => List.forall_mem_cons.mpr ⟨here, later⟩
  case noMember => exact List.forall_mem_nil _
  case member => exact fun _ _ here later => List.forall_mem_cons.mpr ⟨here, later⟩

/-- Equal values are of one shape, or they are the same number. -/
theorem Json.same_cases {a b : Json} (same : a.same b = true) :
    (a = .null ∧ b = .null) ∨ (∃ text, a = .str text ∧ b = .str text) ∨
    (∃ xs ys, a = .arr xs ∧ b = .arr ys ∧ sameElements xs ys = true) ∨
    (∃ xs ys, a = .obj xs ∧ b = .obj ys ∧ xs.length = ys.length ∧ sameMembers xs ys = true) ∨
    sameNumber a b = true := by
  unfold Json.same at same
  split at same
  · exact Or.inl ⟨rfl, rfl⟩
  · next s t =>
    rw [beq_iff_eq] at same
    exact Or.inr (Or.inl ⟨s, rfl, same ▸ rfl⟩)
  · next xs ys => exact Or.inr (Or.inr (Or.inl ⟨xs, ys, rfl, rfl, same⟩))
  · next xs ys =>
    rw [Bool.and_eq_true, beq_iff_eq] at same
    exact Or.inr (Or.inr (Or.inr (Or.inl ⟨xs, ys, rfl, rfl, same⟩)))
  · exact Or.inr (Or.inr (Or.inr (Or.inr same)))

theorem Json.same_of_sameNumber {a b : Json} (same : sameNumber a b = true) : a.same b = true := by
  obtain ⟨size, known, _⟩ := (sameNumber_iff a b).mp same
  unfold Json.same
  split <;> first | rfl | exact same | cases known

theorem sameMembers_iff (xs ys : Members) :
    sameMembers xs ys = true ↔
      ∀ member ∈ xs, ∃ other, ys.lookup member.1 = some other ∧ member.2.same other = true := by
  induction xs with
  | nil => simp [sameMembers]
  | cons head rest ih =>
    rw [sameMembers, Bool.and_eq_true, ih, List.forall_mem_cons]
    cases ys.lookup head.1 <;> simp

theorem sameElements_trans {xs ys zs : List Json}
    (later : ∀ x ∈ xs, ∀ y z, x.same y = true → y.same z = true → x.same z = true)
    (first : sameElements xs ys = true) (second : sameElements ys zs = true) :
    sameElements xs zs = true := by
  induction xs generalizing ys zs with
  | nil =>
    cases ys with
    | nil => exact second
    | cons y ys => cases first
  | cons x xs ih =>
    obtain ⟨here, later⟩ := List.forall_mem_cons.mp later
    cases ys with
    | nil => cases first
    | cons y ys =>
      cases zs with
      | nil => cases second
      | cons z zs =>
        rw [sameElements, Bool.and_eq_true] at first second ⊢
        exact ⟨here y z first.1 second.1, ih later first.2 second.2⟩

theorem sameMembers_trans {xs ys zs : Members}
    (later : ∀ member ∈ xs, ∀ y z, member.2.same y = true → y.same z = true → member.2.same z = true)
    (first : sameMembers xs ys = true) (second : sameMembers ys zs = true) :
    sameMembers xs zs = true := by
  rw [sameMembers_iff] at first second ⊢
  intro member known
  obtain ⟨y, found, same⟩ := first member known
  obtain ⟨z, foundAgain, sameAgain⟩ := second _ (mem_of_lookup found)
  exact ⟨z, foundAgain, later member known y z same sameAgain⟩

theorem Json.same_arr_iff {xs : List Json} {b : Json} :
    (Json.arr xs).same b = true ↔ ∃ ys, b = .arr ys ∧ sameElements xs ys = true := by
  constructor
  · intro same
    rcases same_cases same with ⟨other, _⟩ | ⟨_, other, _⟩ | ⟨_, ys, shape, rfl, elements⟩ |
      ⟨_, _, other, _⟩ | number
    · cases other
    · cases other
    · cases shape
      exact ⟨ys, rfl, elements⟩
    · cases other
    · obtain ⟨_, sized, _⟩ := (sameNumber_iff _ _).mp number
      cases sized
  · rintro ⟨ys, rfl, elements⟩
    exact elements

theorem Json.same_obj_iff {xs : Members} {b : Json} :
    (Json.obj xs).same b = true ↔
      ∃ ys, b = .obj ys ∧ xs.length = ys.length ∧ sameMembers xs ys = true := by
  constructor
  · intro same
    rcases same_cases same with ⟨other, _⟩ | ⟨_, other, _⟩ | ⟨_, _, other, _⟩ |
      ⟨_, ys, shape, rfl, members⟩ | number
    · cases other
    · cases other
    · cases other
    · cases shape
      exact ⟨ys, rfl, members⟩
    · obtain ⟨_, sized, _⟩ := (sameNumber_iff _ _).mp number
      cases sized
  · rintro ⟨ys, rfl, length, members⟩
    rw [Json.same, length, members, beq_self_eq_true, Bool.and_self]

/-- What is equal to a number is a number. -/
theorem sameNumber_of_same {a b c : Json} (first : sameNumber a b = true)
    (second : b.same c = true) : sameNumber b c = true := by
  obtain ⟨_, _, sized⟩ := (sameNumber_iff a b).mp first
  rcases Json.same_cases second with ⟨rfl, _⟩ | ⟨_, rfl, _⟩ | ⟨_, _, rfl, _⟩ | ⟨_, _, rfl, _⟩ |
    number
  · cases sized
  · cases sized
  · cases sized
  · cases sized
  · exact number

theorem Json.same_trans {a b c : Json} (first : a.same b = true) (second : b.same c = true) :
    a.same c = true := by
  induction a using Json.inductionOn generalizing b c with
  | scalar a noArray noObject =>
    rcases same_cases first with ⟨rfl, rfl⟩ | ⟨text, rfl, rfl⟩ | ⟨xs, _, rfl, _⟩ |
      ⟨xs, _, rfl, _⟩ | number
    · exact second
    · exact second
    · exact absurd rfl (noArray xs)
    · exact absurd rfl (noObject xs)
    · exact same_of_sameNumber (sameNumber_trans number (sameNumber_of_same number second))
  | arr xs ih =>
    obtain ⟨ys, rfl, elements⟩ := same_arr_iff.mp first
    obtain ⟨zs, rfl, others⟩ := same_arr_iff.mp second
    exact sameElements_trans (fun x known _ _ => ih x known) elements others
  | obj xs ih =>
    obtain ⟨ys, rfl, length, members⟩ := same_obj_iff.mp first
    obtain ⟨zs, rfl, otherLength, others⟩ := same_obj_iff.mp second
    refine same_obj_iff.mpr ⟨zs, rfl, length.trans otherLength, ?_⟩
    exact sameMembers_trans (fun member known _ _ => ih member known) members others

end ShellSurvey
