import ShellSurvey.Proofs.Content.ByteOrderMark
import ShellSurvey.Proofs.Text.Trimmed

namespace ShellSurvey

/-- What a rule on the top of a script makes of a line that its search comes to. -/
inductive LineVerdict where
  | passed
  | settled
  | offence
  deriving DecidableEq

/-- The verdict of the rule on field separators. -/
def ifsVerdict (line : Line) : LineVerdict :=
  if isIfsUnset line then .settled
  else if isBeforeIfs line then .passed
  else if isIfsAssignment line then .settled
  else .offence

/-- A statement that the search for safety flags passes over: blank, a comment, or starting with one of the
two words that may come before. -/
def isBeforeSafety (statement : Line) : Bool :=
  statement = [] || isComment statement ||
    ["IFS", "unset"].any fun word => startsWith word statement

/-- The verdict of the rule on safety flags. -/
def safetyVerdict (line : Line) : LineVerdict :=
  if isBeforeSafety (trim line) then .passed
  else if isSetStatement (trim line) then .settled
  else .offence

/-- The rule on traps has no use for the top of a script. -/
def ContentRule.verdict : ContentRule → Line → LineVerdict
  | .ifs => ifsVerdict
  | .safety => safetyVerdict
  | .traps => fun _ => .passed

/-- The number of the line that ends the search, if it is reported. -/
def firstOffence (verdict : Line → LineVerdict) (number : Nat) : List Line → Option Nat
  | [] => none
  | line :: rest =>
    match verdict line with
    | .passed => firstOffence verdict (number + 1) rest
    | .settled => none
    | .offence => some number

theorem ifsOffence_eq (number : Nat) (lines : List Line) :
    ifsOffence number lines = firstOffence ifsVerdict number lines := by
  induction lines generalizing number with
  | nil => rfl
  | cons line lines ih =>
    rw [ifsOffence, firstOffence, ifsVerdict, ih]
    by_cases unset : isIfsUnset line = true
    · rw [if_pos unset, if_pos unset]
    rw [if_neg unset, if_neg unset]
    by_cases before : isBeforeIfs line = true
    · rw [if_pos before, if_pos before]
    rw [if_neg before, if_neg before]
    by_cases assigned : isIfsAssignment line = true
    · rw [if_pos assigned, if_pos assigned]
    · rw [if_neg assigned, if_neg assigned]

theorem safetyOffence_eq (lines : List Line) :
    safetyOffence lines = firstOffence safetyVerdict 1 lines := by
  have along (number : Nat) (lines : List Line) :
      ((firstLineFrom number isBeforeSafety (lines.map trim)).bind fun found =>
        if isSetStatement found.2 then none else some found.1) =
          firstOffence safetyVerdict number lines := by
    induction lines generalizing number with
    | nil => rfl
    | cons line lines ih =>
      rw [List.map_cons, firstLineFrom, firstOffence, safetyVerdict]
      by_cases before : isBeforeSafety (trim line) = true
      · rw [if_pos before, if_pos before]
        exact ih (number + 1)
      rw [if_neg before, if_neg before, Option.bind_some]
      by_cases set : isSetStatement (trim line) = true
      · rw [if_pos set, if_pos set]
      · rw [if_neg set, if_neg set]
  have first : firstStatement ["IFS", "unset"] lines =
      firstLineFrom 1 isBeforeSafety (lines.map trim) := rfl
  rw [← along, safetyOffence, first]
  cases firstLineFrom 1 isBeforeSafety (lines.map trim) <;> rfl

section

variable {verdict : Line → LineVerdict} {front rest : List Line} {line : Line} {number : Nat}

theorem firstOffence_append (passed : ∀ line ∈ front, verdict line = .passed) :
    firstOffence verdict number (front ++ rest) =
      firstOffence verdict (number + front.length) rest := by
  induction front generalizing number with
  | nil => rfl
  | cons line front ih =>
    obtain ⟨here, later⟩ := List.forall_mem_cons.mp passed
    rw [List.cons_append, firstOffence, here]
    dsimp only
    rw [ih later, List.length_cons]
    congr 1
    omega

/-- A line that is not passed over ends the search. -/
theorem firstOffence_stop (stop : verdict line ≠ .passed) :
    firstOffence verdict number (line :: rest) =
      if verdict line = .offence then some number else none := by
  rw [firstOffence]
  cases judged : verdict line with
  | passed => exact absurd judged stop
  | settled => rfl
  | offence => rfl

/-- Nothing is reported if the search comes to a line in order without an offence before it. -/
theorem firstOffence_settled (fine : ∀ earlier ∈ front, verdict earlier ≠ .offence)
    (settled : verdict line = .settled) :
    firstOffence verdict number (front ++ line :: rest) = none := by
  induction front generalizing number with
  | nil => rw [List.nil_append, firstOffence, settled]
  | cons earlier front ih =>
    obtain ⟨here, later⟩ := List.forall_mem_cons.mp fine
    rw [List.cons_append, firstOffence]
    cases judged : verdict earlier with
    | passed => exact ih later
    | settled => rfl
    | offence => exact absurd judged here

/-- Nothing but the verdicts on the lines counts. -/
theorem firstOffence_congr {lines others : List Line}
    (same : lines.map verdict = others.map verdict) :
    firstOffence verdict number lines = firstOffence verdict number others := by
  induction lines generalizing others number with
  | nil =>
    obtain rfl := List.map_eq_nil_iff.mp same.symm
    rfl
  | cons line lines ih =>
    obtain ⟨other, others, rfl, here, later⟩ := List.map_eq_cons_iff.mp same.symm
    rw [firstOffence, firstOffence, here]
    cases verdict line with
    | passed => exact ih later.symm
    | settled => rfl
    | offence => rfl

/-- Lines behind some number are reported at later ones. -/
theorem le_of_firstOffence {found : Nat} {lines : List Line}
    (reported : firstOffence verdict number lines = some found) : number ≤ found := by
  induction lines generalizing number with
  | nil => cases reported
  | cons line lines ih =>
    rw [firstOffence] at reported
    split at reported
    · exact (Nat.le_succ number).trans (ih reported)
    · cases reported
    · exact (Option.some.inj reported).le

end

/-- What a rule on the top of a script reports. -/
theorem ContentRule.inspect_top {rule : ContentRule} {kind : FindingKind}
    (top : rule.topKind? = some kind) (record : Record) (lines : List Line) :
    rule.inspect record lines =
      (firstOffence rule.verdict 1 lines).toList.map (kind.atLine record.path) := by
  cases rule with
  | ifs =>
    cases top
    rw [inspect, ifsOffence_eq]
    rfl
  | safety =>
    cases top
    rw [inspect, safetyOffence_eq]
    rfl
  | traps => cases top

/-- A line may stand in the place of one with the same verdict. -/
theorem ContentRule.inspect_replaced {rule : ContentRule} {kind : FindingKind}
    (top : rule.topKind? = some kind) (record : Record) (front back : List Line) {line other : Line}
    (same : rule.verdict line = rule.verdict other) :
    rule.inspect record (front ++ line :: back) = rule.inspect record (front ++ other :: back) := by
  have verdicts : (front ++ line :: back).map rule.verdict =
      (front ++ other :: back).map rule.verdict := by
    rw [List.map_append, List.map_append, List.map_cons, List.map_cons, same]
  rw [inspect_top top, inspect_top top, firstOffence_congr verdicts]

theorem FindingKind.atLine_injective {kind : FindingKind} {path : String} {number other : Nat}
    (same : kind.atLine path number = kind.atLine path other) : number = other := by
  have lines : [(number : Int)] = [(other : Int)] := congrArg Finding.lines same
  exact Int.ofNat_inj.mp (List.cons.inj lines).1

section

variable {world : World} {record : Record} {content : Bytes} {rule : ContentRule}
  {kind : FindingKind} (top : rule.topKind? = some kind) (posix : record.posix = true)
  (noLibrary : record.library = false) (read : world.ReadsAs record.path content)
include top posix noLibrary read

theorem ContentRule.check_top :
    rule.check world record =
      .ok ((firstOffence rule.verdict 1 (scriptLines content)).toList.map
        (kind.atLine record.path)) := by
  have applies : rule.applies record = true := by
    rw [applies_top top posix, noLibrary]
    rfl
  rw [check_readsAs applies read, inspect_top top]

theorem ContentRule.check_silent_iff : rule.check world record = .ok [] ↔
    firstOffence rule.verdict 1 (scriptLines content) = none := by
  rw [check_top top posix noLibrary read, Except.ok.injEq, List.map_eq_nil_iff]
  exact Option.toList_eq_nil_iff

theorem ContentRule.check_reports_iff {number : Nat} :
    rule.check world record = .ok [kind.atLine record.path number] ↔
      firstOffence rule.verdict 1 (scriptLines content) = some number := by
  rw [check_top top posix noLibrary read, Except.ok.injEq]
  cases firstOffence rule.verdict 1 (scriptLines content) with
  | none => simp
  | some found =>
    simp only [Option.toList_some, List.map_cons, List.map_nil, List.cons.injEq, and_true,
      Option.some.injEq]
    exact ⟨FindingKind.atLine_injective, fun same => same ▸ rfl⟩

end

end ShellSurvey
