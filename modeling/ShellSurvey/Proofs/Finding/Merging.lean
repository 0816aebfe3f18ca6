import Mathlib.Data.List.Chain
import Mathlib.Data.List.Sort
import ShellSurvey.Finding.Folded

namespace ShellSurvey

section

variable {line known : Int} {lines more : List Int}

theorem mem_insertLine : known ∈ insertLine line lines ↔ known = line ∨ known ∈ lines := by
  induction lines with
  | nil => simp [insertLine]
  | cons other rest ih =>
    rw [insertLine]
    split
    · exact List.mem_cons
    split
    · next same => simp [same]
    · rw [List.mem_cons, ih, List.mem_cons, or_left_comm]

theorem pairwise_insertLine (sorted : lines.Pairwise (· < ·)) :
    (insertLine line lines).Pairwise (· < ·) := by
  induction lines with
  | nil => simp [insertLine]
  | cons other rest ih =>
    obtain ⟨least, later⟩ := List.pairwise_cons.mp sorted
    rw [insertLine]
    split
    · next less =>
      exact List.pairwise_cons.mpr ⟨List.forall_mem_cons.mpr ⟨less, fun known member =>
        less.trans (least known member)⟩, sorted⟩
    split
    · exact sorted
    · refine List.pairwise_cons.mpr ⟨fun known member => ?_, ih later⟩
      rcases mem_insertLine.mp member with rfl | member
      · omega
      · exact least known member

@[simp] theorem mem_sortLines : known ∈ sortLines lines ↔ known ∈ lines := by
  induction lines with
  | nil => rfl
  | cons other rest ih =>
    rw [sortLines, List.foldr_cons, mem_insertLine, List.mem_cons, ← ih]
    rfl

variable (lines more)

theorem pairwise_sortLines : (sortLines lines).Pairwise (· < ·) := by
  induction lines with
  | nil => exact .nil
  | cons other rest ih => exact pairwise_insertLine ih

theorem sortLines_sorted_left : sortLines (sortLines lines ++ more) = sortLines (lines ++ more) :=
  (pairwise_sortLines _).eq_of_mem_iff (pairwise_sortLines _) (by simp)

theorem sortLines_sorted_right : sortLines (lines ++ sortLines more) = sortLines (lines ++ more) :=
  (pairwise_sortLines _).eq_of_mem_iff (pairwise_sortLines _) (by simp)

end

/-- What a finding says, wherever it is. -/
def Finding.message (finding : Finding) : FindingKind × Option Members :=
  (finding.kind, finding.values)

theorem Finding.repeats_congr {a b c d : Finding} (first : a.message = b.message)
    (second : c.message = d.message) : a.repeats c = b.repeats d := by
  obtain ⟨kind, values⟩ := Prod.mk.inj first
  obtain ⟨otherKind, otherValues⟩ := Prod.mk.inj second
  rw [repeats, repeats, kind, values, otherKind, otherValues]

theorem Finding.message_locate {finding located : Finding} {place : Location}
    (added : finding.locate place = .ok located) : located.message = finding.message := by
  unfold locate at added
  cases known : finding.location with
  | none =>
    rw [known] at added
    cases added
    rfl
  | some location =>
    rw [known] at added
    dsimp only at added
    cases sum : location.add place with
    | error clash =>
      rw [sum] at added
      cases added
    | ok place =>
      rw [sum] at added
      cases added
      rfl

/-- A finding keeps its message when another one is folded into it. -/
theorem Finding.message_absorb {earlier later sum : Finding}
    (absorbed : earlier.absorb later = .ok sum) : sum.message = earlier.message := by
  unfold absorb at absorbed
  split at absorbed
  · exact message_locate absorbed
  · cases absorbed
    rfl

/-- Findings that cannot be folded lie in different files. -/
theorem Finding.absorb_clash {earlier later : Finding} {clash : LocationClash}
    (failed : earlier.absorb later = .error clash) :
    ∃ place ∈ earlier.location, ∃ other ∈ later.location, place.path ≠ other.path := by
  unfold absorb at failed
  split at failed
  · next place other known located =>
    refine ⟨place, known, other, located, fun same => ?_⟩
    unfold locate at failed
    rw [known] at failed
    dsimp only at failed
    rw [Location.add, if_pos same] at failed
    cases failed
  · cases failed

section

variable {findings front more : List Finding} {last finding : Finding}

/-- A finding that does not repeat the last one stands at the end. -/
theorem appendFinding_apart (apart : ∀ last ∈ findings.getLast?, last.repeats finding = false) :
    appendFinding findings finding = .ok (findings ++ [finding]) := by
  unfold appendFinding
  cases known : findings.getLast? with
  | none =>
    rw [List.getLast?_eq_none_iff.mp known]
    rfl
  | some last =>
    dsimp only
    rw [apart last known, if_neg Bool.false_ne_true]

/-- A finding that repeats the last one is folded into it. -/
theorem appendFinding_repeat (repeated : last.repeats finding = true) :
    appendFinding (front ++ [last]) finding = (last.absorb finding).map fun sum => front ++ [sum] := by
  unfold appendFinding
  rw [List.getLast?_append, List.getLast?_singleton, Option.some_or, List.dropLast_concat]
  dsimp only
  rw [if_pos repeated]

/-- All that adding a finding can do. -/
theorem appendFinding_cases (findings : List Finding) (finding : Finding) :
    ((∀ last ∈ findings.getLast?, last.repeats finding = false) ∧
      appendFinding findings finding = .ok (findings ++ [finding])) ∨
    ∃ front last, findings = front ++ [last] ∧ last.repeats finding = true ∧
      appendFinding findings finding = (last.absorb finding).map fun sum => front ++ [sum] := by
  cases known : findings.getLast? with
  | none => exact Or.inl ⟨by simp, appendFinding_apart (by simp [known])⟩
  | some last =>
    obtain ⟨front, rfl⟩ := List.getLast?_eq_some_iff.mp known
    cases repeated : last.repeats finding with
    | true => exact Or.inr ⟨front, last, rfl, repeated, appendFinding_repeat repeated⟩
    | false =>
      have apart : ∀ other ∈ some last, other.repeats finding = false := by
        rintro other ⟨⟩
        exact repeated
      exact Or.inl ⟨apart, appendFinding_apart (known ▸ apart)⟩

/-- A finding that is added stands at the end, or the last one has become the sum of both. -/
theorem appendFinding_ok_cases (added : appendFinding findings finding = .ok more) :
    ((∀ last ∈ findings.getLast?, last.repeats finding = false) ∧ more = findings ++ [finding]) ∨
    ∃ front last sum, findings = front ++ [last] ∧ last.repeats finding = true ∧
      last.absorb finding = .ok sum ∧ more = front ++ [sum] := by
  rcases appendFinding_cases findings finding with ⟨apart, appended⟩ |
    ⟨front, last, rfl, repeated, folded⟩
  · rw [appended] at added
    cases added
    exact Or.inl ⟨apart, rfl⟩
  · rw [folded] at added
    cases absorbed : last.absorb finding with
    | error clash =>
      rw [absorbed] at added
      cases added
    | ok sum =>
      rw [absorbed] at added
      cases added
      exact Or.inr ⟨front, last, sum, rfl, repeated, absorbed, rfl⟩

theorem appendFindings_append {sum : List Finding}
    (done : appendFindings findings front = (sum, none)) :
    appendFindings findings (front ++ more) = appendFindings sum more := by
  induction front generalizing findings with
  | nil =>
    cases done
    rfl
  | cons finding rest ih =>
    rw [List.cons_append, appendFindings]
    rw [appendFindings] at done
    cases appended : appendFinding findings finding with
    | error clash =>
      rw [appended] at done
      cases done
    | ok next =>
      rw [appended] at done
      exact ih done

end

/-- No finding says the same as the one before it. -/
def Unrepeated (findings : List Finding) : Prop :=
  findings.IsChain fun a b => a.repeats b = false

theorem unrepeated_congr {findings others : List Finding}
    (same : findings.map Finding.message = others.map Finding.message) :
    Unrepeated findings ↔ Unrepeated others := by
  -- Whether two findings repeat each other is decided on their messages alone.
  let Apart (a b : FindingKind × Option Members) : Prop := (a.1 = b.1 && sameValues a.2 b.2) = false
  have said (findings : List Finding) :
      Unrepeated findings ↔ (findings.map Finding.message).IsChain Apart :=
    (List.isChain_map (R := Apart) Finding.message).symm
  rw [said, said, same]

theorem unrepeated_concat {findings : List Finding} {finding : Finding} :
    Unrepeated (findings ++ [finding]) ↔
      Unrepeated findings ∧ ∀ last ∈ findings.getLast?, last.repeats finding = false := by
  rw [Unrepeated, List.isChain_append]
  simp [Unrepeated]

end ShellSurvey
