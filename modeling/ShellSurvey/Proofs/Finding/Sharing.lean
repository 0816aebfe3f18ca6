import ShellSurvey.Finding.Holdings
import ShellSurvey.Proofs.Finding.Folding

namespace ShellSurvey

section

variable {holdings after : Holdings} {list number last : Nat}

/-- All that adding a finding to a list can do. -/
theorem Holdings.append_cases (holdings : Holdings) (list number : Nat) :
    ((∀ last ∈ (holdings.held list).getLast?, last ≠ number ∧
        (holdings.finding last).repeats (holdings.finding number) = false) ∧
      holdings.append list number = .ok (holdings.hold list (holdings.held list ++ [number]))) ∨
    ∃ last ∈ (holdings.held list).getLast?,
      (last = number ∨ (holdings.finding last).repeats (holdings.finding number) = true) ∧
      holdings.append list number =
        ((holdings.finding last).absorb (holdings.finding number)).map (holdings.put last) := by
  unfold append
  cases ending : (holdings.held list).getLast? with
  | none =>
    rw [List.getLast?_eq_none_iff.mp ending]
    exact Or.inl ⟨by simp, rfl⟩
  | some last =>
    dsimp only
    split
    · next same => exact Or.inr ⟨last, rfl, same, rfl⟩
    · next other =>
      obtain ⟨apart, different⟩ := not_or.mp other
      refine Or.inl ⟨?_, rfl⟩
      rintro _ ⟨⟩
      exact ⟨apart, Bool.eq_false_iff.mpr different⟩

theorem Holdings.view_hold_self (numbers : List Nat) :
    (holdings.hold list numbers).view list = numbers.map holdings.finding := by
  simp [view, hold]

theorem Holdings.view_hold_of_ne {other : Nat} (different : other ≠ list) (numbers : List Nat) :
    (holdings.hold list numbers).view other = holdings.view other := by
  simp [view, hold, different]

/-- A finding that only gets further places leaves all messages as they are. -/
theorem Holdings.map_message_put {finding : Finding}
    (same : finding.message = (holdings.finding number).message) (list : Nat) :
    ((holdings.put number finding).view list).map Finding.message =
      (holdings.view list).map Finding.message := by
  simp only [view, List.map_map]
  refine List.map_congr_left fun other _ => ?_
  simp only [Function.comp_apply, put]
  split
  · next here => rw [same, here]
  · rfl

/-- Lists in none of which a finding says the same as the one before it. -/
def Holdings.Unrepeated (holdings : Holdings) : Prop :=
  ∀ list, ShellSurvey.Unrepeated (holdings.view list)

theorem Holdings.Unrepeated.put (apart : holdings.Unrepeated) {finding : Finding}
    (same : finding.message = (holdings.finding number).message) :
    (holdings.put number finding).Unrepeated :=
  fun list => (unrepeated_congr (map_message_put same list)).mpr (apart list)

theorem Holdings.Unrepeated.append (apart : holdings.Unrepeated)
    (added : holdings.append list number = .ok after) : after.Unrepeated := by
  rcases append_cases holdings list number with ⟨other, appended⟩ | ⟨last, _, _, folded⟩
  · cases appended.symm.trans added
    intro shown
    by_cases here : shown = list
    · rw [here, view_hold_self, List.map_append, List.map_singleton]
      refine unrepeated_concat.mpr ⟨apart list, ?_⟩
      rw [List.getLast?_map]
      intro ending known
      obtain ⟨last, held, rfl⟩ := Option.map_eq_some_iff.mp known
      exact (other last held).2
    · rw [view_hold_of_ne here]
      exact apart shown
  · rw [folded] at added
    cases absorbed : (holdings.finding last).absorb (holdings.finding number) with
    | error clash =>
      rw [absorbed] at added
      cases added
    | ok sum =>
      rw [absorbed] at added
      cases added
      exact apart.put (Finding.message_absorb absorbed)

theorem Holdings.Unrepeated.extend (apart : holdings.Unrepeated) (numbers : List Nat) :
    (holdings.extend list numbers).1.Unrepeated := by
  induction numbers generalizing holdings with
  | nil => exact apart
  | cons number rest ih =>
    rw [Holdings.extend]
    cases appended : holdings.append list number with
    | error clash => exact apart
    | ok more => exact ih (apart.append appended)

/-- No step makes neighbours say the same, whatever findings the lists have in common. -/
theorem Holdings.Unrepeated.run (apart : holdings.Unrepeated) (steps : List ListStep) :
    (holdings.run steps).Unrepeated := by
  induction steps generalizing holdings with
  | nil => exact apart
  | cons step rest ih =>
    refine ih ?_
    cases step with
    | extend list numbers => exact apart.extend numbers
    | extendList list other _ => exact apart.extend (holdings.held other)
    | locate number place =>
      rw [ListStep.run, Holdings.locate]
      cases located : (holdings.finding number).locate place with
      | error clash => exact apart
      | ok finding => exact apart.put (Finding.message_locate located)

/-- A finding that cannot be added repeats the last one of the list, and the two lie in different
files. -/
theorem Holdings.append_clash {clash : LocationClash}
    (failed : holdings.append list number = .error clash) :
    ∃ last ∈ (holdings.held list).getLast?,
      (last = number ∨ (holdings.finding last).repeats (holdings.finding number) = true) ∧
      ∃ place ∈ (holdings.finding last).location, ∃ other ∈ (holdings.finding number).location,
        place.path ≠ other.path := by
  rcases append_cases holdings list number with ⟨_, appended⟩ | ⟨last, ending, same, folded⟩
  · rw [appended] at failed
    cases failed
  · refine ⟨last, ending, same, ?_⟩
    rw [folded] at failed
    cases absorbed : (holdings.finding last).absorb (holdings.finding number) with
    | ok sum =>
      rw [absorbed] at failed
      cases failed
    | error cause => exact Finding.absorb_clash absorbed

theorem Holdings.extend_append {numbers more : List Nat}
    (done : holdings.extend list numbers = (after, none)) :
    holdings.extend list (numbers ++ more) = after.extend list more := by
  induction numbers generalizing holdings with
  | nil =>
    cases done
    rfl
  | cons number rest ih =>
    rw [List.cons_append, extend]
    rw [extend] at done
    cases appended : holdings.append list number with
    | error clash =>
      rw [appended] at done
      cases done
    | ok next =>
      rw [appended] at done
      exact ih done

/-- Extending stops at the first finding that clashes, with all before it added. -/
theorem Holdings.extend_stopped {numbers : List Nat} {clash : LocationClash}
    (stopped : holdings.extend list numbers = (after, some clash)) :
    ∃ before failing rest, numbers = before ++ failing :: rest ∧
      holdings.extend list before = (after, none) ∧ after.append list failing = .error clash := by
  induction numbers generalizing holdings with
  | nil => cases stopped
  | cons number rest ih =>
    rw [extend] at stopped
    cases appended : holdings.append list number with
    | error flaw =>
      rw [appended] at stopped
      cases stopped
      exact ⟨[], number, rest, rfl, rfl, appended⟩
    | ok next =>
      rw [appended] at stopped
      obtain ⟨before, failing, later, rfl, done, flawed⟩ := ih stopped
      refine ⟨number :: before, failing, later, rfl, ?_, flawed⟩
      rw [extend, appended]
      exact done

/-- What extending a list by some findings leaves as it was. -/
structure Holdings.Follows (before after : Holdings) (list : Nat) (numbers : List Nat) : Prop where
  held : ∃ kept, kept.Sublist numbers ∧ after.held list = before.held list ++ kept
  others : ∀ other, other ≠ list → after.held other = before.held other
  untouched : ∀ number, number ∉ after.held list → after.finding number = before.finding number

theorem Holdings.follows_refl (holdings : Holdings) (list : Nat) (numbers : List Nat) :
    holdings.Follows holdings list numbers :=
  ⟨⟨[], List.nil_sublist _, (List.append_nil _).symm⟩, fun _ _ => rfl, fun _ _ => rfl⟩

theorem Holdings.Follows.trans {before middle after : Holdings} {numbers more : List Nat}
    (first : before.Follows middle list numbers) (second : middle.Follows after list more) :
    before.Follows after list (numbers ++ more) := by
  obtain ⟨kept, within, held⟩ := first.held
  obtain ⟨further, among, later⟩ := second.held
  refine ⟨⟨kept ++ further, within.append among, ?_⟩, ?_, ?_⟩
  · rw [later, held, List.append_assoc]
  · exact fun other different => (second.others other different).trans (first.others other different)
  · intro number absent
    rw [second.untouched number absent]
    refine first.untouched number fun present => absent ?_
    rw [later]
    exact List.mem_append_left _ present

section

variable {before : Holdings} {numbers more : List Nat}
  (follows : before.Follows after list numbers)
include follows

theorem Holdings.Follows.sublist : (after.held list).Sublist (before.held list ++ numbers) := by
  obtain ⟨kept, within, held⟩ := follows.held
  rw [held]
  exact (List.Sublist.refl _).append within

variable (fresh : (before.held list ++ numbers ++ more).Nodup)
include fresh

/-- What is new to a list, besides what it was extended by, is still new to it. -/
theorem Holdings.Follows.nodup : (after.held list ++ more).Nodup :=
  List.Nodup.sublist (follows.sublist.append (.refl _)) fresh

theorem Holdings.Follows.finding_eq {number : Nat} (member : number ∈ more) :
    after.finding number = before.finding number := by
  refine follows.untouched number fun present => ?_
  exact (List.nodup_append.mp fresh).2.2 number (follows.sublist.subset present) number member rfl

end

theorem Holdings.append_follows (added : holdings.append list number = .ok after) :
    holdings.Follows after list [number] := by
  rcases append_cases holdings list number with ⟨_, appended⟩ | ⟨last, ending, _, folded⟩
  · cases appended.symm.trans added
    exact ⟨⟨[number], .refl _, by simp [hold]⟩, fun _ different => by simp [hold, different],
      fun _ _ => rfl⟩
  · rw [folded] at added
    cases absorbed : (holdings.finding last).absorb (holdings.finding number) with
    | error clash =>
      rw [absorbed] at added
      cases added
    | ok sum =>
      rw [absorbed] at added
      cases added
      refine ⟨⟨[], List.nil_sublist _, (List.append_nil _).symm⟩, fun _ _ => rfl, ?_⟩
      intro other absent
      refine if_neg fun same => absent ?_
      rw [same]
      exact List.mem_of_getLast? ending

theorem Holdings.extend_follows (holdings : Holdings) (list : Nat) (numbers : List Nat) :
    holdings.Follows (holdings.extend list numbers).1 list numbers := by
  induction numbers generalizing holdings with
  | nil => exact holdings.follows_refl list []
  | cons number rest ih =>
    rw [extend]
    cases appended : holdings.append list number with
    | error clash => exact holdings.follows_refl list _
    | ok more => exact (append_follows appended).trans (ih more)

/-- Adding the findings of another list as they are by then comes to an end, and is adding those that it
holds to begin with. -/
theorem Holdings.extendFrom_of_ne {other position rounds : Nat} (apart : other ≠ list)
    (enough : ((holdings.held other).drop position).length < rounds) :
    holdings.extendFrom list other position rounds =
      some (holdings.extend list ((holdings.held other).drop position)) := by
  induction rounds generalizing holdings position with
  | zero => cases enough
  | succ rounds ih =>
    rw [extendFrom]
    cases there : (holdings.held other)[position]? with
    | none =>
      rw [List.drop_eq_nil_of_le (List.getElem?_eq_none_iff.mp there)]
      rfl
    | some number =>
      obtain ⟨within, rfl⟩ := List.getElem?_eq_some_iff.mp there
      rw [List.drop_eq_getElem_cons within] at enough ⊢
      rw [extend]
      dsimp only
      cases appended : holdings.append list ((holdings.held other)[position]) with
      | error clash => rfl
      | ok more =>
        have held := (append_follows appended).others other apart
        rw [← held]
        refine ih ?_
        rw [held]
        exact Nat.lt_of_succ_lt_succ enough

/-- Findings of a list that say different things, and of which none stands next to itself. -/
structure Holdings.Diverse (holdings : Holdings) (list : Nat) : Prop where
  apart : ∀ one ∈ holdings.held list, ∀ other ∈ holdings.held list, one ≠ other →
    (holdings.finding one).repeats (holdings.finding other) = false
  alternating : (holdings.held list).IsChain (· ≠ ·)

/-- A list that is extended by itself always has one more finding to add: it is the neighbour of the one that
was added last. -/
theorem Holdings.Diverse.extendFrom_self (diverse : holdings.Diverse list) {position : Nat}
    (ending : (holdings.held list).getLast? = some last)
    (there : (holdings.held list)[position]? = some number) (different : last ≠ number) (rounds : Nat) :
    holdings.extendFrom list list position rounds = none := by
  induction rounds generalizing holdings last number position with
  | zero => rfl
  | succ rounds ih =>
    have present := List.mem_of_getElem? there
    obtain ⟨within, here⟩ := List.getElem?_eq_some_iff.mp there
    have next : position + 1 < (holdings.held list).length := by
      refine lt_of_le_of_ne within fun whole => different ?_
      rw [List.getLast?_eq_getElem?, ← whole, Nat.add_sub_cancel, there] at ending
      exact (Option.some.inj ending).symm
    have unlike : (holdings.finding last).repeats (holdings.finding number) = false :=
      diverse.apart last (List.mem_of_getLast? ending) number present different
    have added : holdings.append list number =
        .ok (holdings.hold list (holdings.held list ++ [number])) := by
      simp [append, ending, different, unlike]
    have longer : (holdings.hold list (holdings.held list ++ [number])).held list =
        holdings.held list ++ [number] := if_pos rfl
    have members : ∀ one ∈ holdings.held list ++ [number], one ∈ holdings.held list := by
      simp [or_imp, present]
    have remains : (holdings.hold list (holdings.held list ++ [number])).Diverse list := by
      refine ⟨fun one member other others => ?_, ?_⟩
      · rw [longer] at member others
        exact diverse.apart one (members one member) other (members other others)
      · rw [longer, List.isChain_append]
        refine ⟨diverse.alternating, .singleton number, fun one before other after => ?_⟩
        cases ending.symm.trans before
        cases after
        exact different
    have neighbours : number ≠ (holdings.held list)[position + 1] := by
      rw [← here]
      exact diverse.alternating.getElem position next
    rw [extendFrom, there]
    simp only [added]
    refine ih remains ?_ ?_ neighbours
    · rw [longer]
      exact List.getLast?_concat
    · rw [longer, List.getElem?_append_left next, List.getElem?_eq_getElem next]

/-- A finding that is new to a list is added to what the list shows. -/
theorem Holdings.view_append (fresh : (holdings.held list ++ [number]).Nodup) :
    (holdings.append list number).map (·.view list) =
      appendFinding (holdings.view list) (holdings.finding number) := by
  rcases append_cases holdings list number with ⟨other, appended⟩ | ⟨last, ending, same, folded⟩
  · have apart : ∀ last ∈ (holdings.view list).getLast?,
        last.repeats (holdings.finding number) = false := by
      rw [view, List.getLast?_map]
      intro ending known
      obtain ⟨last, held, rfl⟩ := Option.map_eq_some_iff.mp known
      exact (other last held).2
    rw [appended, appendFinding_apart apart, Except.map, view_hold_self, List.map_append]
    rfl
  · obtain ⟨front, held⟩ := List.getLast?_eq_some_iff.mp ending
    rw [held] at fresh
    obtain ⟨distinct, _, new⟩ := List.nodup_append.mp fresh
    have different : last ≠ number :=
      new last (List.mem_append_right _ (List.mem_singleton_self _)) number
        (List.mem_singleton_self _)
    have absent : last ∉ front := by
      intro present
      exact (List.nodup_append.mp distinct).2.2 last present last (List.mem_singleton_self _) rfl
    have view : holdings.view list = front.map holdings.finding ++ [holdings.finding last] := by
      rw [Holdings.view, held, List.map_append, List.map_singleton]
    rw [folded, view, appendFinding_repeat (same.resolve_left different)]
    cases (holdings.finding last).absorb (holdings.finding number) with
    | error clash => rfl
    | ok sum =>
      have kept : front.map (holdings.put last sum).finding = front.map holdings.finding := by
        refine List.map_congr_left fun other member => ?_
        have different : other ≠ last := by
          rintro rfl
          exact absent member
        simp [Holdings.put, different]
      have put : (holdings.put last sum).view list =
          (front ++ [last]).map (holdings.put last sum).finding := by
        rw [← held]
        rfl
      simp only [Except.map]
      rw [put, List.map_append, kept]
      simp [Holdings.put]

/-- Extending a list by findings that are all new to it is adding them to what it shows. -/
theorem Holdings.view_extend {numbers : List Nat} (fresh : (holdings.held list ++ numbers).Nodup) :
    ((holdings.extend list numbers).1.view list, (holdings.extend list numbers).2) =
      appendFindings (holdings.view list) (numbers.map holdings.finding) := by
  induction numbers generalizing holdings with
  | nil => rfl
  | cons number rest ih =>
    rw [← List.singleton_append, ← List.append_assoc] at fresh
    have first := view_append (List.nodup_append.mp fresh).1
    rw [List.map_cons, extend, appendFindings, ← first]
    cases appended : holdings.append list number with
    | error clash => rfl
    | ok more =>
      have follows := append_follows appended
      have later : rest.map more.finding = rest.map holdings.finding :=
        List.map_congr_left fun other => follows.finding_eq fresh
      rw [← later]
      exact ih (follows.nodup fresh)

/-- What has been said of the findings on a path holds of those in a list that is extended by them. -/
theorem Holdings.extend_onPath {path : String} {numbers : List Nat}
    (fresh : (holdings.held list ++ numbers).Nodup)
    (located : ∀ finding ∈ holdings.view list, finding.OnPath path)
    (here : ∀ number ∈ numbers, (holdings.finding number).OnPath path) :
    (holdings.extend list numbers).2 = none ∧
      (holdings.extend list numbers).1.view list =
        foldFindings (holdings.view list) (numbers.map holdings.finding) ∧
      ∀ finding ∈ (holdings.extend list numbers).1.view list, finding.OnPath path := by
  have given : ∀ finding ∈ numbers.map holdings.finding, finding.OnPath path :=
    List.forall_mem_map.mpr here
  obtain ⟨added, together⟩ := appendFindings_onPath located given
  obtain ⟨view, unbroken⟩ := Prod.mk.inj ((view_extend fresh).trans added)
  rw [view]
  exact ⟨unbroken, rfl, together⟩

/-- A step adds something to a list. -/
def ListStep.AddsTo (list : Nat) : ListStep → Prop
  | .extend target _ => target = list
  | .extendList target _ _ => target = list
  | .locate _ _ => False

/-- What a step adds to the list that it extends. -/
def Holdings.added (holdings : Holdings) : ListStep → List Nat
  | .extend _ numbers => numbers
  | .extendList _ other _ => holdings.held other
  | .locate _ _ => []

theorem ListStep.run_eq_extend {step : ListStep} (adds : step.AddsTo list) :
    step.run holdings = (holdings.extend list (holdings.added step)).1 := by
  cases step with
  | extend target numbers =>
    cases adds
    rfl
  | extendList target other apart =>
    cases adds
    rfl
  | locate number place => cases adds

/-- Extending a list leaves what further steps add to it as it is. -/
theorem Holdings.added_extend {step : ListStep} (adds : step.AddsTo list) (numbers : List Nat) :
    (holdings.extend list numbers).1.added step = holdings.added step := by
  cases step with
  | extend target numbers => rfl
  | extendList target other apart =>
    cases adds
    exact (holdings.extend_follows list numbers).others other apart
  | locate number place => rfl

/-- Extending a list step by step is extending it by all that is added at once. -/
theorem Holdings.run_extend {path : String} (steps : List ListStep)
    (adds : ∀ step ∈ steps, step.AddsTo list)
    (fresh : (holdings.held list ++ steps.flatMap holdings.added).Nodup)
    (located : ∀ finding ∈ holdings.view list, finding.OnPath path)
    (here : ∀ number ∈ steps.flatMap holdings.added, (holdings.finding number).OnPath path) :
    holdings.run steps = (holdings.extend list (steps.flatMap holdings.added)).1 := by
  induction steps generalizing holdings with
  | nil => rfl
  | cons step rest ih =>
    obtain ⟨addsHere, addLater⟩ := List.forall_mem_cons.mp adds
    rw [List.flatMap_cons] at fresh here ⊢
    obtain ⟨first, others⟩ := List.forall_mem_append.mp here
    rw [← List.append_assoc] at fresh
    obtain ⟨unbroken, _, together⟩ := extend_onPath (List.nodup_append.mp fresh).1 located first
    have follows := holdings.extend_follows list (holdings.added step)
    have same : rest.flatMap (holdings.extend list (holdings.added step)).1.added =
        rest.flatMap holdings.added :=
      List.flatMap_congr fun later member =>
        added_extend (addLater later member) (holdings.added step)
    have later : ∀ number ∈ rest.flatMap holdings.added,
        ((holdings.extend list (holdings.added step)).1.finding number).OnPath path := by
      intro number member
      rw [follows.finding_eq fresh member]
      exact others number member
    have added : holdings.extend list (holdings.added step) =
        ((holdings.extend list (holdings.added step)).1, none) := Prod.ext rfl unbroken
    have remains := follows.nodup fresh
    rw [← same] at remains later
    rw [extend_append added, ← same]
    have run : holdings.run (step :: rest) = (step.run holdings).run rest := rfl
    rw [run, ListStep.run_eq_extend addsHere]
    exact ih addLater remains together later

theorem Holdings.extendList_onPath {path : String} {other : Nat}
    (fresh : (holdings.held list ++ holdings.held other).Nodup)
    (located : ∀ finding ∈ holdings.view list, finding.OnPath path)
    (here : ∀ finding ∈ holdings.view other, finding.OnPath path) :
    (holdings.extendList list other).2 = none ∧
      (holdings.extendList list other).1.view list =
        foldFindings (holdings.view list) (holdings.view other) ∧
      ∀ finding ∈ (holdings.extendList list other).1.view list, finding.OnPath path :=
  extend_onPath fresh located (List.forall_mem_map.mp here)

/-- A list whose findings are all apart from what is added to another one shows what it did. -/
theorem Holdings.Follows.view_eq {before : Holdings} {numbers : List Nat} {other : Nat}
    (follows : before.Follows after list numbers) (different : other ≠ list)
    (fresh : (before.held list ++ numbers ++ before.held other).Nodup) :
    after.view other = before.view other := by
  rw [view, view, follows.others other different]
  exact List.map_congr_left fun number => follows.finding_eq fresh

end

section

variable {holdings : Holdings} {left right whole : Nat} {path : String} {xs ys : List Nat}

/-- What is put into an empty list folds as it folds by itself. -/
theorem Holdings.extend_empty (empty : holdings.held left = []) (fresh : xs.Nodup)
    (here : ∀ number ∈ xs, (holdings.finding number).OnPath path) :
    (holdings.extend left xs).2 = none ∧
      (holdings.extend left xs).1.view left = foldFindings [] (xs.map holdings.finding) ∧
      ∀ finding ∈ (holdings.extend left xs).1.view left, finding.OnPath path := by
  have nothing : holdings.view left = [] := by rw [view, empty, List.map_nil]
  have new : (holdings.held left ++ xs).Nodup := by rwa [empty]
  have located : ∀ finding ∈ holdings.view left, finding.OnPath path := by simp [nothing]
  have added := extend_onPath new located here
  rwa [nothing] at added

/-- A list that is extended by another one into which everything was put before shows the same. -/
theorem Holdings.extendList_empty (empty : holdings.held whole = [])
    (fresh : (holdings.held left).Nodup)
    (here : ∀ finding ∈ holdings.view left, finding.OnPath path) :
    (holdings.extendList whole left).1.view whole = foldFindings [] (holdings.view left) ∧
      ∀ finding ∈ (holdings.extendList whole left).1.view whole, finding.OnPath path :=
  (extend_empty empty fresh (List.forall_mem_map.mp here)).2

/-- Two lists that are filled one after the other, each with findings of its own, fold each by itself. -/
theorem Holdings.fill_two (leftRight : left ≠ right) (leftEmpty : holdings.held left = [])
    (rightEmpty : holdings.held right = []) (fresh : (xs ++ ys).Nodup)
    (here : ∀ number ∈ xs ++ ys, (holdings.finding number).OnPath path) :
    let two := holdings.run [.extend left xs, .extend right ys]
    two.view left = foldFindings [] (xs.map holdings.finding) ∧
      two.view right = foldFindings [] (ys.map holdings.finding) ∧
      (two.held left ++ two.held right).Nodup ∧
      ∀ other, other ≠ left → other ≠ right → two.held other = holdings.held other := by
  obtain ⟨hereLeft, hereRight⟩ := List.forall_mem_append.mp here
  obtain ⟨freshLeft, freshRight, _⟩ := List.nodup_append.mp fresh
  obtain ⟨_, viewLeft, _⟩ := extend_empty leftEmpty freshLeft hereLeft
  have first := holdings.extend_follows left xs
  have apart : (holdings.held left ++ xs ++ ys).Nodup := by rwa [leftEmpty]
  have found : ∀ number ∈ ys, (holdings.extend left xs).1.finding number = holdings.finding number :=
    fun number => first.finding_eq apart
  have heldLeft := first.sublist
  have empty := (first.others right leftRight.symm).trans rightEmpty
  rw [leftEmpty, List.nil_append] at heldLeft
  have run : holdings.run [.extend left xs, .extend right ys] =
      ((holdings.extend left xs).1.extend right ys).1 := rfl
  rw [run]
  dsimp only
  generalize (holdings.extend left xs).1 = one at viewLeft first found heldLeft empty ⊢
  have second := one.extend_follows right ys
  have located : ∀ number ∈ ys, (one.finding number).OnPath path := by
    intro number member
    rw [found number member]
    exact hereRight number member
  obtain ⟨_, viewRight, _⟩ := extend_empty empty freshRight located
  rw [List.map_congr_left found] at viewRight
  have heldRight := second.sublist
  rw [empty, List.nil_append] at heldRight
  have distinct : (one.held right ++ ys ++ one.held left).Nodup := by
    rw [empty, List.nil_append]
    exact ((List.Sublist.refl ys).append heldLeft).nodup (List.nodup_append_comm.mp fresh)
  refine ⟨(second.view_eq leftRight distinct).trans viewLeft, viewRight, ?_, ?_⟩
  · rw [second.others left leftRight]
    exact (heldLeft.append heldRight).nodup fresh
  · intro other apartLeft apartRight
    exact (second.others other apartRight).trans (first.others other apartLeft)

/-- An empty list that is extended by two others, with findings of their own, folds what these show. -/
theorem Holdings.join_two (leftWhole : left ≠ whole) (rightWhole : right ≠ whole)
    (empty : holdings.held whole = [])
    (fresh : (holdings.held left ++ holdings.held right).Nodup)
    (onLeft : ∀ finding ∈ holdings.view left, finding.OnPath path)
    (onRight : ∀ finding ∈ holdings.view right, finding.OnPath path) :
    (holdings.run [.extendList whole left leftWhole, .extendList whole right rightWhole]).view whole =
      foldFindings (foldFindings [] (holdings.view left)) (holdings.view right) := by
  have follows := holdings.extend_follows whole (holdings.held left)
  have apart : (holdings.held whole ++ holdings.held left ++ holdings.held right).Nodup := by
    rwa [empty, List.nil_append]
  have shown : (holdings.extendList whole left).1.view right = holdings.view right :=
    follows.view_eq rightWhole apart
  have remains := follows.nodup apart
  rw [← follows.others right rightWhole] at remains
  obtain ⟨view, located⟩ := extendList_empty empty (List.nodup_append.mp fresh).1 onLeft
  rw [← shown] at onRight
  rw [← view, ← shown]
  exact (extendList_onPath remains located onRight).2.1

/-- Findings that are folded in two lists, and then in one, fold as all of them at once. -/
theorem Holdings.fold_by_lists (leftRight : left ≠ right) (leftWhole : left ≠ whole)
    (rightWhole : right ≠ whole)
    (empty : holdings.held left = [] ∧ holdings.held right = [] ∧ holdings.held whole = [])
    (fresh : (xs ++ ys).Nodup)
    (here : ∀ number ∈ xs ++ ys, (holdings.finding number).OnPath path) :
    (holdings.run [.extend left xs, .extend right ys, .extendList whole left leftWhole,
        .extendList whole right rightWhole]).view whole =
      foldFindings [] ((xs ++ ys).map holdings.finding) := by
  obtain ⟨leftEmpty, rightEmpty, wholeEmpty⟩ := empty
  obtain ⟨viewLeft, viewRight, distinct, others⟩ :=
    fill_two leftRight leftEmpty rightEmpty fresh here
  obtain ⟨hereLeft, hereRight⟩ := List.forall_mem_append.mp here
  have onLeft := List.forall_mem_map.mpr hereLeft
  have onRight := List.forall_mem_map.mpr hereRight
  have nothing : ∀ finding ∈ ([] : List Finding), finding.OnPath path := List.forall_mem_nil _
  have foldedLeft := (appendFindings_onPath nothing onLeft).2
  have foldedRight := (appendFindings_onPath nothing onRight).2
  have wholeStill := (others whole leftWhole.symm rightWhole.symm).trans wholeEmpty
  rw [← viewLeft] at foldedLeft
  rw [← viewRight] at foldedRight
  calc (holdings.run [.extend left xs, .extend right ys, .extendList whole left leftWhole,
        .extendList whole right rightWhole]).view whole
      = foldFindings (foldFindings [] (foldFindings [] (xs.map holdings.finding)))
          (foldFindings [] (ys.map holdings.finding)) := by
        rw [← viewLeft, ← viewRight]
        exact join_two leftWhole rightWhole wholeStill distinct foldedLeft foldedRight
    _ = foldFindings (foldFindings [] (xs.map holdings.finding)) (ys.map holdings.finding) := by
        rw [foldFindings_folded nothing onLeft]
        rw [viewLeft] at foldedLeft
        exact foldFindings_folded foldedLeft onRight
    _ = foldFindings [] ((xs ++ ys).map holdings.finding) := by
        rw [List.map_append, foldFindings_onPath_append nothing onLeft]

/-- Folding what is folded changes nothing. -/
theorem Holdings.fold_twice (apart : left ≠ whole)
    (empty : holdings.held left = [] ∧ holdings.held whole = []) (fresh : xs.Nodup)
    (here : ∀ number ∈ xs, (holdings.finding number).OnPath path) :
    (holdings.run [.extend left xs, .extendList whole left apart]).view whole =
      foldFindings [] (xs.map holdings.finding) := by
  have follows := holdings.extend_follows left xs
  obtain ⟨_, view, located⟩ := extend_empty empty.1 fresh here
  have held := follows.sublist
  rw [empty.1, List.nil_append] at held
  have nothing := (follows.others whole apart.symm).trans empty.2
  have again := (extendList_empty nothing (fresh.sublist held) located).1
  rw [view, foldFindings_folded (List.forall_mem_nil _) (List.forall_mem_map.mpr here)] at again
  exact again

end

/-- Steps of any kind keep neighbours apart, whatever findings the lists have in common, and what cannot be
added leaves what was added before it. Adding another list finding by finding comes to an end. Findings
placed on one path that are all put into a list once, and get no further place by other means, fold run by
run, each run with all its lines in increasing order, however they are batched and whatever is folded
beforehand. -/
theorem findings_fold_by_runs :
    (∀ (holdings : Holdings) (steps : List ListStep),
      (∀ list, Unrepeated (holdings.view list)) →
      ∀ list, Unrepeated ((holdings.run steps).view list)) ∧
    (∀ (holdings after : Holdings) (list number : Nat) (clash : LocationClash),
      holdings.extend list [number] = (after, some clash) →
      after = holdings ∧ ∃ last ∈ (holdings.held list).getLast?,
        (last = number ∨ (holdings.finding last).repeats (holdings.finding number) = true) ∧
        ∃ place ∈ (holdings.finding last).location, ∃ other ∈ (holdings.finding number).location,
          place.path ≠ other.path) ∧
    (∀ (holdings after : Holdings) (list : Nat) (numbers : List Nat) (clash : LocationClash),
      holdings.extend list numbers = (after, some clash) →
      ∃ before failing rest, numbers = before ++ failing :: rest ∧
        holdings.extend list before = (after, none) ∧
        after.append list failing = .error clash) ∧
    (∀ (holdings : Holdings) (list other : Nat), other ≠ list →
      ∃ rounds, holdings.extendFrom list other 0 rounds = some (holdings.extendList list other)) ∧
    (∀ (holdings : Holdings) (list : Nat) (path : String) (steps : List ListStep),
      holdings.held list = [] → (∀ step ∈ steps, step.AddsTo list) →
      let added := steps.flatMap holdings.added
      added.Nodup → (∀ number ∈ added, (holdings.finding number).PlacedOn path) →
      let given := added.map holdings.finding
      let after := holdings.run steps
      (holdings.extend list added).2 = none ∧
      after.view list = foldFindings [] given ∧
      (∀ finding ∈ after.view list, finding.PlacedOn path) ∧
      List.Forall₂ (fun run merged => merged.message = run.first.message ∧
          ∃ lines, merged.location = some ⟨path, lines⟩ ∧ lines.Pairwise (· < ·) ∧
            ∀ line, line ∈ lines ↔ ∃ finding ∈ run.findings, line ∈ finding.lines)
        (runsOf given) (after.view list)) ∧
    (∀ (holdings : Holdings) (left right whole : Nat) (path : String) (xs ys : List Nat)
        (leftWhole : left ≠ whole) (rightWhole : right ≠ whole), left ≠ right →
      holdings.held left = [] ∧ holdings.held right = [] ∧ holdings.held whole = [] →
      (xs ++ ys).Nodup → (∀ number ∈ xs ++ ys, (holdings.finding number).PlacedOn path) →
      (holdings.run [.extend left xs, .extend right ys, .extendList whole left leftWhole,
          .extendList whole right rightWhole]).view whole =
        (holdings.run [.extend whole (xs ++ ys)]).view whole) ∧
    ∀ (holdings : Holdings) (left whole : Nat) (path : String) (xs : List Nat)
        (apart : left ≠ whole), holdings.held left = [] ∧ holdings.held whole = [] → xs.Nodup →
      (∀ number ∈ xs, (holdings.finding number).PlacedOn path) →
      (holdings.run [.extend left xs, .extendList whole left apart]).view whole =
        (holdings.run [.extend whole xs]).view whole := by
  refine ⟨fun _ steps apart => Holdings.Unrepeated.run apart steps, ?single,
    fun _ _ _ _ _ stopped => Holdings.extend_stopped stopped, ?whole, ?runs, ?parts, ?twice⟩
  case single =>
    intro holdings after list number clash failed
    obtain ⟨before, failing, rest, one, done, clashed⟩ := Holdings.extend_stopped failed
    obtain ⟨rfl, rfl, rfl⟩ : before = [] ∧ failing = number ∧ rest = [] := by
      cases before with
      | nil =>
        obtain ⟨same, none⟩ := List.cons.inj one
        exact ⟨rfl, same.symm, none.symm⟩
      | cons _ _ => simp at one
    cases done
    exact ⟨rfl, Holdings.append_clash clashed⟩
  case whole =>
    intro holdings list other apart
    exact ⟨(holdings.held other).length + 1,
      Holdings.extendFrom_of_ne apart (Nat.lt_succ_self (holdings.held other).length)⟩
  case runs =>
    intro holdings list path steps empty adds added fresh placed
    have here : ∀ number ∈ added, (holdings.finding number).OnPath path :=
      fun number member => (placed number member).onPath
    have new : (holdings.held list ++ added).Nodup := by rwa [empty]
    have located : ∀ finding ∈ holdings.view list, finding.OnPath path := by
      simp [Holdings.view, empty]
    obtain ⟨unbroken, view, together⟩ := Holdings.extend_empty empty fresh here
    dsimp only
    rw [Holdings.run_extend steps adds new located here, view]
    rw [view] at together
    exact ⟨unbroken, rfl, fun finding member => (together finding member).placed,
      foldFindings_union (List.forall_mem_map.mpr here)⟩
  case parts =>
    intro holdings left right whole path xs ys leftWhole rightWhole leftRight empty fresh placed
    have here : ∀ number ∈ xs ++ ys, (holdings.finding number).OnPath path :=
      fun number member => (placed number member).onPath
    rw [Holdings.fold_by_lists leftRight leftWhole rightWhole empty fresh here]
    exact (Holdings.extend_empty empty.2.2 fresh here).2.1.symm
  case twice =>
    intro holdings left whole path xs apart empty fresh placed
    have here : ∀ number ∈ xs, (holdings.finding number).OnPath path :=
      fun number member => (placed number member).onPath
    rw [Holdings.fold_twice apart empty fresh here]
    exact (Holdings.extend_empty empty.2 fresh here).2.1.symm

/-- Four findings: one message at three lines out of order, with another one after the second, and empty
lists. -/
def scattered : Holdings where
  finding := fun number =>
    match number with
    | 0 => Kinds.execTraps.atLine "a.sh" 5
    | 1 => Kinds.execTraps.atLine "a.sh" 2
    | 2 => Kinds.ifsNotReset.atLine "a.sh" 2
    | _ => Kinds.execTraps.atLine "a.sh" 7
  held := fun _ => []

theorem scattered_placed : ∀ number ∈ [0, 1, 2, 3], (scattered.finding number).PlacedOn "a.sh" := by
  simp only [List.forall_mem_cons, List.not_mem_nil, false_implies, implies_true, and_true]
  exact ⟨.once { kind := Kinds.execTraps } (some 5) rfl rfl,
    .once { kind := Kinds.execTraps } (some 2) rfl rfl,
    .once { kind := Kinds.ifsNotReset } (some 2) rfl rfl,
    .once { kind := Kinds.execTraps } (some 7) rfl rfl⟩

theorem findings_fold_by_runs_execs :
    (∀ number ∈ [0, 1, 2, 3], (scattered.finding number).PlacedOn "a.sh") ∧
      (∀ list, Unrepeated ((scattered.run [.extend 0 [0, 1], .locate 1 ⟨"b.sh", [1]⟩]).view list)) ∧
      (scattered.run [.extend 0 [0], .extend 0 [1, 2, 3]]).view 0 =
        [{ kind := Kinds.execTraps, location := some ⟨"a.sh", [2, 5]⟩ },
          Kinds.ifsNotReset.atLine "a.sh" 2, Kinds.execTraps.atLine "a.sh" 7] ∧
      (scattered.run [.extend 1 [0], .extend 2 [1, 2], .extendList 0 1 (by decide),
          .extendList 0 2 (by decide)]).view 0 =
        [{ kind := Kinds.execTraps, location := some ⟨"a.sh", [2, 5]⟩ },
          Kinds.ifsNotReset.atLine "a.sh" 2] := by
  obtain ⟨apart, _, _, _, runs, parts, _⟩ := findings_fold_by_runs
  have few : ∀ number ∈ [0, 1, 2], (scattered.finding number).PlacedOn "a.sh" := by
    intro number member
    exact scattered_placed number (List.mem_append_left [3] member)
  have whole := runs scattered 0 "a.sh" [.extend 0 [0], .extend 0 [1, 2, 3]] rfl
    (by simp [ListStep.AddsTo]) (by decide) scattered_placed
  have joined := parts scattered 1 2 0 "a.sh" [0] [1, 2] (by decide) (by decide) (by decide) ⟨rfl, rfl, rfl⟩
    (by decide) few
  exact ⟨scattered_placed, apart scattered _ fun _ => .nil, whole.2.1.trans rfl, joined.trans rfl⟩

/-- A finding that is put into a list twice has its later lines in both places. One that gets a further
place has it in its list, and one that is in two lists has in both the lines of what repeats it in one. A list
that is extended by itself need not come to an end. -/
theorem shared_finding_gains_lines :
    ((scattered.run [.extend 0 [0, 2, 0, 3]]).view 0).map Finding.lines = [[5, 7], [2], [5, 7]] ∧
      (foldFindings [] ([0, 2, 0, 3].map scattered.finding)).map Finding.lines =
        [[5], [2], [5, 7]] ∧
      ((scattered.run [.extend 0 [0], .locate 0 ⟨"a.sh", [9]⟩]).view 0).map Finding.lines =
        [[5, 9]] ∧
      ((scattered.run [.extend 1 [0], .extendList 0 1 (by decide), .extend 0 [1]]).view 1).map
        Finding.lines = [[2, 5]] ∧
      (foldFindings [] [scattered.finding 0]).map Finding.lines = [[5]] ∧
      ∀ rounds, (scattered.run [.extend 0 [0, 2]]).extendFrom 0 0 0 rounds = none := by
  have held : (scattered.run [.extend 0 [0, 2]]).held 0 = [0, 2] := by decide
  have diverse : (scattered.run [.extend 0 [0, 2]]).Diverse 0 := by
    constructor
    · rw [held]
      decide
    · rw [held]
      simp
  refine ⟨by decide, by decide, by decide, by decide, by decide, fun rounds => ?_⟩
  exact diverse.extendFrom_self (by rw [held]; rfl) (by rw [held]; rfl) (by decide) rounds

end ShellSurvey
