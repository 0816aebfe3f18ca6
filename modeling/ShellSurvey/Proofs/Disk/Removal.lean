import ShellSurvey.Disk.Edit
import ShellSurvey.Proofs.Disk.Tree

namespace ShellSurvey

/-- Both nodes are directories, or they are the same. -/
def Node.Like (one other : Node) : Prop :=
  one = other ∨ one.isDirectory = true ∧ other.isDirectory = true

theorem Node.Like.directory {entries : Listing} {other : Node}
    (alike : Node.Like (.directory entries) other) : ∃ more, other = .directory more := by
  rcases alike with rfl | ⟨_, directory⟩
  · exact ⟨entries, rfl⟩
  · cases other with
    | directory more => exact ⟨more, rfl⟩
    | file content mode | pipe mode | link target => cases directory

theorem Node.Like.eq {one other : Node} (alike : one.Like other) (leaf : one.isDirectory = false) :
    one = other := by
  rcases alike with same | ⟨directory, _⟩
  · exact same
  · rw [leaf] at directory
    cases directory

/-- Whatever lies in one tree lies in the other. -/
def Node.Within (later earlier : Node) : Prop :=
  ∀ names node, later.at? names = some node → ∃ other, earlier.at? names = some other ∧ node.Like other

theorem Node.Within.refl (node : Node) : node.Within node :=
  fun _ found there => ⟨found, there, Or.inl rfl⟩

theorem Node.Within.trans {first second third : Node} (one : first.Within second)
    (two : second.Within third) : first.Within third := by
  intro names node there
  obtain ⟨other, otherThere, alike⟩ := one names node there
  obtain ⟨last, lastThere, alikeToo⟩ := two names other otherThere
  refine ⟨last, lastThere, ?_⟩
  rcases alike with rfl | ⟨directory, otherDirectory⟩
  · exact alikeToo
  · rcases alikeToo with rfl | ⟨_, lastDirectory⟩
    · exact Or.inr ⟨directory, otherDirectory⟩
    · exact Or.inr ⟨directory, lastDirectory⟩

theorem Node.Within.like {later earlier : Node} (within : later.Within earlier) :
    later.Like earlier := by
  obtain ⟨other, there, alike⟩ := within [] later later.at?_nil
  rw [Node.at?_nil] at there
  cases there
  exact alike

theorem Node.Within.at? {later earlier : Node} (within : later.Within earlier) {names : List String}
    {node : Node} (there : later.at? names = some node) :
    ∃ other, earlier.at? names = some other ∧ node.Within other := by
  obtain ⟨other, otherThere, _⟩ := within names node there
  refine ⟨other, otherThere, fun more found below => ?_⟩
  rw [← Node.at?_append there] at below
  rw [← Node.at?_append otherThere]
  exact within _ found below

/-- A tree of which nothing is known is within every directory. -/
theorem Node.within_nothing (entries : Listing) :
    (Node.directory []).Within (.directory entries) := by
  intro names node there
  cases names with
  | nil =>
    cases there
    exact ⟨_, Node.at?_nil _, Or.inr ⟨rfl, rfl⟩⟩
  | cons name more => cases there

theorem mem_alterEntry_cases {name : String} {change : Option Node → Option Node}
    {listing : Listing} {entry : String × Node} (member : entry ∈ alterEntry name change listing) :
    entry ∈ listing ∨ entry.1 = name ∧
      (change none = some entry.2 ∨ ∃ node, (name, node) ∈ listing ∧ change (some node) = some entry.2) := by
  have changed {old : Option Node} (member : entry ∈ (change old).toList.map (name, ·)) :
      entry.1 = name ∧ change old = some entry.2 := by
    obtain ⟨node, result, rfl⟩ := List.mem_map.mp member
    exact ⟨rfl, Option.mem_toList.mp result⟩
  induction listing with
  | nil =>
    obtain ⟨same, result⟩ := changed member
    exact Or.inr ⟨same, Or.inl result⟩
  | cons head rest ih =>
    obtain ⟨known, node⟩ := head
    simp only [alterEntry] at member
    split at member
    · next sameName =>
      rcases List.mem_append.mp member with here | later
      · obtain ⟨same, result⟩ := changed here
        exact Or.inr ⟨same, Or.inr ⟨node, sameName ▸ List.mem_cons_self, result⟩⟩
      · exact Or.inl (List.mem_cons_of_mem _ later)
    · split at member
      · rcases List.mem_append.mp member with here | old
        · obtain ⟨same, result⟩ := changed here
          exact Or.inr ⟨same, Or.inl result⟩
        · exact Or.inl old
      · rcases List.mem_cons.mp member with rfl | later
        · exact Or.inl List.mem_cons_self
        · rcases ih later with old | ⟨same, result | ⟨inner, known, result⟩⟩
          · exact Or.inl (List.mem_cons_of_mem _ old)
          · exact Or.inr ⟨same, Or.inl result⟩
          · exact Or.inr ⟨same, Or.inr ⟨inner, List.mem_cons_of_mem _ known, result⟩⟩

/-- A directory lies within another if each of its entries lies within one of the same name. -/
theorem Node.within_of_entries {later earlier : Listing} (laterOrdered : ListingOrdered later)
    (earlierOrdered : ListingOrdered earlier)
    (entries : ∀ entry ∈ later, ∃ other, (entry.1, other) ∈ earlier ∧ entry.2.Within other) :
    (Node.directory later).Within (.directory earlier) := by
  intro names node there
  cases names with
  | nil =>
    cases there
    exact ⟨_, Node.at?_nil _, Or.inr ⟨rfl, rfl⟩⟩
  | cons name more =>
    rw [Node.at?_directory, Listing.at?_cons, Option.bind_eq_some_iff] at there
    obtain ⟨next, known, there⟩ := there
    obtain ⟨other, otherKnown, within⟩ :=
      entries (name, next) (laterOrdered.lookup_eq_some_iff.mp known)
    rw [Node.at?_directory, Listing.at?_cons, earlierOrdered.lookup_eq_some_iff.mpr otherKnown]
    exact within more node there

theorem keepsOrder_none : KeepsOrder fun _ => none := by
  intro _ _ _ member
  cases member

theorem alterAt_none_within {listing : Listing} (ordered : ListingOrdered listing)
    (names : List String) :
    (Node.directory (alterAt (fun _ => none) names listing)).Within (.directory listing) := by
  induction names generalizing listing with
  | nil => exact .refl _
  | cons name more ih =>
    have altered : ListingOrdered (alterAt (fun _ => none) (name :: more) listing) :=
      ordered.alterAt keepsOrder_none
    refine Node.within_of_entries altered ordered fun entry member => ?_
    cases more with
    | nil =>
      rcases mem_alterEntry_cases member with old | ⟨_, fresh | ⟨_, _, fresh⟩⟩
      · exact ⟨entry.2, old, .refl _⟩
      · cases fresh
      · cases fresh
    | cons next more =>
      rcases mem_alterEntry_cases member with old | ⟨same, fresh | ⟨node, known, result⟩⟩
      · exact ⟨entry.2, old, .refl _⟩
      · cases fresh
      · refine ⟨node, same ▸ known, ?_⟩
        cases node with
        | directory inner =>
          have inOrder : ListingOrdered inner := ordered.of_mem known
          rw [← Option.some.inj result]
          exact ih inOrder
        | file content mode | pipe mode | link target =>
          rw [← Option.some.inj result]
          exact .refl _

/-- Whatever lies on one disk lies on the other. -/
def Disk.Within (later earlier : Disk) : Prop :=
  (Node.directory later.entries).Within (.directory earlier.entries)

theorem Disk.within_of_remove {disk rest : Disk} {path : String}
    (removed : disk.remove path = .ok rest) : rest.Within disk := by
  unfold remove at removed
  split at removed
  · cases removed
  split at removed
  · cases removed
    exact alterAt_none_within disk.ordered _
  · cases removed

theorem Listing.below_within_below {later earlier : Listing}
    (within : (Node.directory later).Within (.directory earlier)) (here : List String) :
    (Node.directory (later.below here)).Within (.directory (earlier.below here)) := by
  rcases later.below_within here with nothing | there
  · rw [nothing]
    exact Node.within_nothing _
  · rw [← Node.at?_directory] at there
    obtain ⟨other, otherThere, inner⟩ := within.at? there
    obtain ⟨more, rfl⟩ := inner.like.directory
    have same : earlier.below here = more := by
      rw [below, ← Node.at?_directory, otherThere]
    rwa [same]

/-- What names lead to in a tree, next to what they lead to in one that it lies within. -/
def Narrows (later earlier : Except Errno Spot) : Prop :=
  match later with
  | .ok spot => ∃ other, earlier = .ok ⟨spot.names, other⟩ ∧ spot.node.Within other
  | .error .nameTooLong => earlier = .error .nameTooLong
  | .error _ => True

theorem Narrows.refl (result : Except Errno Spot) : Narrows result result := by
  cases result with
  | ok spot => exact ⟨spot.node, rfl, .refl _⟩
  | error errno => cases errno <;> trivial

theorem locate_narrows {later earlier : Listing}
    (within : (Node.directory later).Within (.directory earlier)) (follow : Bool) (links : Nat)
    (here names : List String) :
    Narrows (locate later follow links here names) (locate earlier follow links here names) := by
  have known {here : List String} {name : String} {node : Node}
      (listed : (later.below here).lookup name = some node) :
      ∃ other, (earlier.below here).lookup name = some other ∧ node.Within other := by
    rw [Listing.lookup_below, ← Node.at?_directory] at listed
    obtain ⟨other, there, inner⟩ := within.at? listed
    rw [Listing.lookup_below, ← Node.at?_directory]
    exact ⟨other, there, inner⟩
  fun_induction locate later follow links here names with
  | case1 links here =>
    rw [locate]
    exact ⟨_, rfl, Listing.below_within_below within here⟩
  | case2 _ _ _ _ blank ih => rw [locate, if_pos blank]; exact ih
  | case3 _ _ blank => rw [locate, if_neg blank, if_pos rfl, if_pos rfl]; exact .refl _
  | case4 _ _ _ inside blank ih => rw [locate, if_neg blank, if_pos rfl, if_neg inside]; exact ih
  | case5 _ _ _ _ blank up long => rw [locate, if_neg blank, if_neg up, if_pos long]; exact .refl _
  | case6 => trivial
  | case7 _ _ _ _ blank up short entries listed ih =>
    obtain ⟨other, otherListed, inner⟩ := known listed
    obtain ⟨more, rfl⟩ := inner.like.directory
    rw [locate, if_neg blank, if_neg up, if_neg short, otherListed]
    exact ih
  | case8 _ _ _ _ blank up short target listed atEnd =>
    obtain ⟨other, otherListed, inner⟩ := known listed
    obtain rfl := inner.like.eq rfl
    rw [locate, if_neg blank, if_neg up, if_neg short, otherListed]
    simp only [if_pos atEnd]
    exact .refl _
  | case9 => trivial
  | case10 _ _ _ blank up short target listed notAtEnd links absolute =>
    obtain ⟨other, otherListed, inner⟩ := known listed
    obtain rfl := inner.like.eq rfl
    rw [locate, if_neg blank, if_neg up, if_neg short, otherListed]
    simp only [if_neg notAtEnd, if_pos absolute]
    exact .refl _
  | case11 _ _ _ blank up short target listed notAtEnd links relative ih =>
    obtain ⟨other, otherListed, inner⟩ := known listed
    obtain rfl := inner.like.eq rfl
    rw [locate, if_neg blank, if_neg up, if_neg short, otherListed]
    simp only [if_neg notAtEnd, if_neg relative]
    exact ih
  | case12 _ _ _ blank up short node noDirectory noLink listed =>
    obtain ⟨other, otherListed, inner⟩ := known listed
    have leaf : node.isDirectory = false := by
      cases node with
      | directory entries => exact absurd rfl (noDirectory entries)
      | _ => rfl
    obtain rfl := inner.like.eq leaf
    rw [locate, if_neg blank, if_neg up, if_neg short, otherListed]
    simp only [if_true]
    exact .refl _
  | case13 => trivial

theorem Disk.spot_narrows {later earlier : Disk} (within : later.Within earlier) (follow : Bool)
    (path : String) : Narrows (later.spot follow path) (earlier.spot follow path) := by
  unfold spot
  split
  · exact .refl _
  split
  · exact .refl _
  split
  · exact .refl _
  · exact locate_narrows within _ _ _ _

theorem Disk.lookup_of_within {later earlier : Disk} (within : later.Within earlier)
    {follow : Bool} {path : String} {node : Node} (found : later.lookup follow path = .ok node) :
    ∃ other, earlier.lookup follow path = .ok other ∧ node.Within other := by
  have narrows := Disk.spot_narrows within follow path
  unfold lookup at found ⊢
  split at found
  · cases found
  next noNul =>
  split at found
  · next spot atSpot =>
    cases found
    rw [atSpot] at narrows
    obtain ⟨other, otherSpot, inner⟩ := narrows
    rw [if_neg noNul, otherSpot]
    exact ⟨other, rfl, inner⟩
  · cases found

end ShellSurvey
