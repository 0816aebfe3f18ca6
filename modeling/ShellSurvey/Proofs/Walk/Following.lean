import ShellSurvey.Proofs.Walk.Tour

namespace ShellSurvey

/-- A walk comes upon what some visits say: upon all of it, or upon the first of it before it is broken
off. -/
structure Walk.Begins (walk : Walk) (visits : List Visit) : Prop where
  first : walk.visits <+: visits
  whole : walk.broken = none → walk.visits = visits

theorem Walk.Begins.broken (error : FileError) (visits : List Visit) :
    Walk.Begins ⟨[], some error⟩ visits :=
  ⟨List.nil_prefix, fun unbroken => nomatch unbroken⟩

theorem Walk.Begins.all (visits : List Visit) : Walk.Begins ⟨visits, none⟩ visits :=
  ⟨List.prefix_rfl, fun _ => rfl⟩

theorem Walk.Begins.eq_of_unbroken {walk : Walk} {visits : List Visit} (begins : walk.Begins visits)
    (unbroken : walk.broken = none) : walk = ⟨visits, none⟩ := by
  have whole := begins.whole unbroken
  obtain ⟨came, broken⟩ := walk
  cases unbroken
  cases whole
  rfl

theorem Walk.Begins.andThen {first second : Walk} {visits later : List Visit}
    (begins : first.Begins visits) (goesOn : second.Begins later) :
    (first.andThen second).Begins (visits ++ later) := by
  unfold Walk.andThen
  cases broken : first.broken with
  | some error =>
    exact ⟨begins.first.trans (List.prefix_append visits later), fun unbroken => nomatch unbroken⟩
  | none =>
    rw [begins.whole broken]
    refine ⟨(List.prefix_append_right_inj visits).mpr goesOn.first, fun unbroken => ?_⟩
    exact congrArg (visits ++ ·) (goesOn.whole unbroken)

section

variable {world : World} {exclusion : Exclusion}

theorem walkLeaf_begins (path below : Path) :
    (walkLeaf world exclusion path below).Begins (tourLeaf exclusion path below) := by
  unfold walkLeaf tourLeaf
  cases world.leadsToDirectory path.text with
  | error error => exact .broken error _
  | ok answer =>
    by_cases skipped : exclusion.PassesOver below false
    · rw [if_pos skipped]
      exact (if_pos skipped).symm ▸ .all []
    · rw [if_neg skipped]
      exact (if_neg skipped).symm ▸ .all _

theorem walkNode_begins (node : Node) (path below : Path) :
    (walkNode world exclusion path below node).Begins
      (tourNode (world.faults .listing) exclusion path below node) := by
  induction node using Node.inductionOn generalizing path below with
  | file content mode | pipe mode | link target =>
    rw [walkNode, tourNode]
    exact walkLeaf_begins path below
  | directory entries ih =>
    have inner : (walkEntries world exclusion path below entries).Begins
        (tourEntries (world.faults .listing) exclusion path below entries) := by
      induction entries with
      | nil =>
        rw [walkEntries, tourEntries]
        exact .all []
      | cons head rest later =>
        obtain ⟨here, others⟩ := List.forall_mem_cons.mp ih
        rw [walkEntries, tourEntries]
        exact (here _ _).andThen (later others)
    rw [walkNode, tourNode]
    cases world.leadsToDirectory path.text with
    | error error => exact .broken error _
    | ok answer =>
      by_cases skipped : exclusion.PassesOver below true
      · rw [if_pos skipped]
        exact (if_pos skipped).symm ▸ .all []
      · rw [if_neg skipped]
        refine (if_neg skipped).symm ▸ ?_
        cases world.faults .listing path.text with
        | some error => exact .all _
        | none => exact inner

/-- Whether or not it is broken off, a walk follows the tour. -/
theorem walk_begins (world : World) (exclusion : Exclusion) (root : Path) :
    (walk world exclusion root).Begins (tour world exclusion root) := by
  have kept : tourLeaf exclusion root .here = [.entry root] := if_neg fun skipped => skipped.1 rfl
  have leaf : (walkLeaf world exclusion root .here).Begins [.entry root] :=
    kept ▸ walkLeaf_begins root .here
  unfold walk tour Disk.directoryAt?
  cases world.disk.lookup false root.text with
  | error refusal => exact leaf
  | ok node =>
    cases node with
    | directory entries => exact walkNode_begins (.directory entries) root .here
    | file content mode | pipe mode | link target =>
      simp only [walkNode]
      exact leaf

end

theorem Walk.andThen_unbroken {first second : Walk} :
    (first.andThen second).broken = none ↔ first.broken = none ∧ second.broken = none := by
  unfold andThen
  cases first.broken <;> simp

/-- It can be told of everything that a tour gets to what it leads to. -/
def TellsReached (world : World) (exclusion : Exclusion) (path below : Path) (node : Node) : Prop :=
  ∀ names found, node.at? names = some found →
    Reaches (world.faults .listing) exclusion path below names →
      world.CanTell (path.descend names)

section

variable {world : World} {exclusion : Exclusion} {path below : Path}

theorem tellsReached_leaf {node : Node} (noDirectory : node.isDirectory = false) :
    TellsReached world exclusion path below node ↔ world.CanTell path := by
  constructor
  · intro tells
    simpa using tells [] node node.at?_nil (reaches_nil path below)
  · intro told names found there _
    cases names with
    | nil => simpa using told
    | cons name more =>
      cases node with
      | directory entries => cases noDirectory
      | file content mode | pipe mode | link target => cases there

theorem tellsReached_directory {entries : Listing} (ordered : ListingOrdered entries) :
    TellsReached world exclusion path below (.directory entries) ↔
      world.CanTell path ∧ (Enters (world.faults .listing) exclusion path below [] →
        ∀ entry ∈ entries,
          TellsReached world exclusion (path.child entry.1) (below.child entry.1) entry.2) := by
  constructor
  · intro tells
    refine ⟨by simpa using tells [] _ (Node.at?_nil _) (reaches_nil path below), ?_⟩
    intro entered entry known names found there reached
    rw [Path.descend_child]
    refine tells (entry.1 :: names) found ?_ (reaches_cons.mpr ⟨entered, reached⟩)
    rw [Node.at?_directory, Listing.at?_cons, ordered.lookup_eq_some_iff.mpr known]
    exact there
  · rintro ⟨told, inside⟩ names found there reached
    cases names with
    | nil => simpa using told
    | cons name more =>
      rw [Node.at?_directory, Listing.at?_cons, Option.bind_eq_some_iff] at there
      obtain ⟨node, known, there⟩ := there
      obtain ⟨entered, reached⟩ := reaches_cons.mp reached
      rw [← Path.descend_child]
      exact inside entered (name, node) (ordered.lookup_eq_some_iff.mp known) more found there reached

theorem walkLeaf_unbroken_iff :
    (walkLeaf world exclusion path below).broken = none ↔ world.CanTell path := by
  unfold walkLeaf World.CanTell
  cases world.leadsToDirectory path.text with
  | error error => simp
  | ok answer =>
    dsimp only
    split <;> simp [Walk.nothing, Walk.single]

theorem walkEntries_unbroken_iff {entries : Listing} :
    (walkEntries world exclusion path below entries).broken = none ↔ ∀ entry ∈ entries,
      (walkNode world exclusion (path.child entry.1) (below.child entry.1) entry.2).broken = none := by
  induction entries with
  | nil => simp [walkEntries, Walk.nothing]
  | cons head rest ih => rw [walkEntries, Walk.andThen_unbroken, ih, List.forall_mem_cons]

/-- A walk is broken off by nothing but something that it gets to and cannot tell of. -/
theorem walkNode_unbroken_iff {node : Node} (ordered : node.Ordered) :
    (walkNode world exclusion path below node).broken = none ↔
      TellsReached world exclusion path below node := by
  induction node using Node.inductionOn generalizing path below with
  | file content mode => rw [walkNode, walkLeaf_unbroken_iff, tellsReached_leaf rfl]
  | pipe mode => rw [walkNode, walkLeaf_unbroken_iff, tellsReached_leaf rfl]
  | link target => rw [walkNode, walkLeaf_unbroken_iff, tellsReached_leaf rfl]
  | directory entries ih =>
    have inOrder : ListingOrdered entries := ordered
    have inner : (walkEntries world exclusion path below entries).broken = none ↔ ∀ entry ∈ entries,
        TellsReached world exclusion (path.child entry.1) (below.child entry.1) entry.2 := by
      rw [walkEntries_unbroken_iff]
      exact forall₂_congr fun entry known => ih entry known (inOrder.of_mem known)
    rw [tellsReached_directory inOrder, enters_nil, walkNode]
    unfold World.CanTell
    cases world.leadsToDirectory path.text with
    | error error => simp
    | ok answer =>
      dsimp only
      split
      · next skipped =>
        have passed : exclusion.PassesOver below true := skipped
        simp [passed, Walk.nothing]
      · next kept =>
        have gone : ¬ exclusion.PassesOver below true := kept
        cases world.faults .listing path.text with
        | some error => simp [Walk.single]
        | none => simp [gone, inner]

theorem walk_unbroken_directory {entries : Listing}
    (directory : world.disk.directoryAt? path = some entries) :
    (walk world exclusion path).broken = none ↔
      TellsReached world exclusion path .here (.directory entries) := by
  have ordered : (Node.directory entries).Ordered := Disk.directoryAt?_ordered directory
  rw [walk, Disk.directoryAt?_eq_some_iff.mp directory]
  exact walkNode_unbroken_iff ordered

theorem walk_unbroken_alone (noDirectory : world.disk.directoryAt? path = none) :
    (walk world exclusion path).broken = none ↔ world.CanTell path := by
  unfold walk
  cases named : world.disk.lookup false path.text with
  | error refusal => exact walkLeaf_unbroken_iff
  | ok node =>
    cases node with
    | directory entries =>
      rw [Disk.directoryAt?_eq_some_iff.mpr named] at noDirectory
      cases noDirectory
    | file content mode | pipe mode | link target =>
      dsimp only
      rw [walkNode]
      exact walkLeaf_unbroken_iff

theorem walkLeaf_eq_tour (told : world.CanTell path) (below : Path) :
    walkLeaf world exclusion path below = ⟨tourLeaf exclusion path below, none⟩ :=
  (walkLeaf_begins path below).eq_of_unbroken (walkLeaf_unbroken_iff.mpr told)

/-- Where it can be told of everything what it leads to, a walk is the whole tour. -/
theorem walk_eq_tour (told : world.TellsTree path) :
    walk world exclusion path = ⟨tour world exclusion path, none⟩ := by
  refine (walk_begins world exclusion path).eq_of_unbroken ?_
  cases directory : world.disk.directoryAt? path with
  | none => exact (walk_unbroken_alone directory).mpr told.atRoot
  | some entries =>
    refine (walk_unbroken_directory directory).mpr fun names found there _ => ?_
    rw [Node.at?_directory] at there
    exact told.within entries directory names found there

end

end ShellSurvey
