import ShellSurvey.Proofs.Exclusion.Standard
import ShellSurvey.Proofs.Walk.Descent

namespace ShellSurvey

/-- A tree below a root with names on one line each, and directories that can be listed. -/
structure PlainTree (world : World) (root : Path) (entries : Listing) : Prop where
  named : (Node.directory entries).Names PlainName
  listed : ∀ names inner, entries.at? names = some (.directory inner) →
    world.faults .listing (root.descend names).text = none

/-- No directory between the root and what lies at a chain of names has the name of one of version
control or of dependencies. -/
def ClearOfDependencies (names : List String) : Prop :=
  ∀ name ∈ names.dropLast, name ∉ dependencyNames

instance (names : List String) : Decidable (ClearOfDependencies names) :=
  inferInstanceAs (Decidable (∀ name ∈ names.dropLast, name ∉ dependencyNames))

/-- What lies at a chain of names is no directory, and none of dependencies is above it. -/
structure OwnEntry (entries : Listing) (names : List String) : Prop where
  leaf : ∃ node, entries.at? names = some node ∧ node.isDirectory = false
  clear : ClearOfDependencies names

/-- A walk that leaves out dependencies and nothing else. It may be broken off, but only where it cannot
be told what something leads to, be it a directory of dependencies itself. -/
structure Walk.LeavesDependencies (walk : Walk) (world : World) (root : Path) (entries : Listing) :
    Prop where
  own : ∀ path ∈ walk.paths, ∃ names, path = root.descend names ∧ OwnEntry entries names
  all : walk.broken = none → ∀ names, OwnEntry entries names → root.descend names ∈ walk.paths
  inOrder : (walk.paths.map Path.parts).Pairwise (· < ·)
  nothingUnlistable : walk.unlistable = []
  unbroken : walk.broken = none ↔ ∀ names node, entries.at? names = some node →
    ClearOfDependencies names → world.CanTell (root.descend names)

theorem tour_covers_tree {world : World} {exclusion : Exclusion} {root : Path} {entries : Listing}
    (directory : world.disk.directoryAt? root = some entries) :
    Walk.Covers ⟨tour world exclusion root, none⟩ world exclusion root entries := by
  rw [tour, directory]
  exact tour_covers (Disk.directoryAt?_ordered directory)

theorem isPrefix_dropLast_of_ne {α : Type} {front whole : List α} (ahead : front <+: whole)
    (different : front ≠ whole) : front <+: whole.dropLast := by
  obtain ⟨more, rfl⟩ := ahead
  have rest : more ≠ [] := by
    rintro rfl
    exact different (List.append_nil front).symm
  rw [List.dropLast_append_of_ne_nil rest]
  exact List.prefix_append front more.dropLast

section

variable {world : World} {root : Path} {entries : Listing} (tree : PlainTree world root entries)
include tree

theorem PlainTree.plain {names : List String} {node : Node} (there : entries.at? names = some node) :
    ∀ name ∈ names, PlainName name :=
  tree.named names node ((Node.at?_directory _ _).trans there)

variable [PatternLibrary] (laws : PatternLibrary.Laws)
  (finds : PatternLibrary.FindsDirectories dependencyNames) {names : List String}
include laws finds

theorem PlainTree.opensAbove_iff {node : Node} (there : entries.at? names = some node) :
    OpensAbove world .standard root entries names ↔ ClearOfDependencies names := by
  have skips {above : List String} (front : above <+: names) (below : above ≠ []) :
      Exclusion.standard.skips (Path.here.descend above) true = true ↔
        ∃ name ∈ above, name ∈ dependencyNames :=
    skips_standard_iff laws finds (fun name member => tree.plain there name (front.subset member)) below
  constructor
  · intro opened name member known
    obtain ⟨before, behind, split⟩ := List.append_of_mem member
    have short : before ++ [name] <+: names.dropLast := ⟨behind, by simp [split]⟩
    have front : before ++ [name] <+: names := short.trans names.dropLast_prefix
    have nonempty : names ≠ [] := by
      rintro rfl
      cases member
    have different : before ++ [name] ≠ names := by
      intro same
      have length := short.length_le
      rw [same, List.length_dropLast] at length
      have some := List.length_pos_iff.mpr nonempty
      omega
    have kept := (opened _ front different).kept (by simp)
    have skipped := (skips front (by simp)).mpr ⟨name, by simp, known⟩
    rw [kept] at skipped
    cases skipped
  · intro clear above front different
    obtain ⟨inner, directory⟩ := Listing.at?_prefix front different there
    refine ⟨⟨inner, directory⟩, fun below => ?_, tree.listed above inner directory⟩
    rw [← Bool.not_eq_true, skips front below]
    rintro ⟨name, member, known⟩
    exact clear name ((isPrefix_dropLast_of_ne front different).subset member) known

theorem PlainTree.yields_iff :
    Yields world .standard root entries names ↔ OwnEntry entries names := by
  constructor
  · rintro ⟨⟨node, there, leaf⟩, _, above⟩
    exact ⟨⟨node, there, leaf⟩, (tree.opensAbove_iff laws finds there).mp above⟩
  · rintro ⟨⟨node, there, leaf⟩, clear⟩
    refine ⟨⟨node, there, leaf⟩, ?_, (tree.opensAbove_iff laws finds there).mpr clear⟩
    have nonempty : names ≠ [] := by
      rintro rfl
      cases there
      cases leaf
    rw [← Bool.not_eq_true, skips_standard_iff laws finds (tree.plain there) nonempty]
    rintro ⟨name, member, known⟩
    exact clear name member known

variable (directory : world.disk.directoryAt? root = some entries)
include directory

theorem PlainTree.mem_tour {path : Path} :
    path ∈ Walk.paths ⟨tour world .standard root, none⟩ ↔
      ∃ names, path = root.descend names ∧ OwnEntry entries names := by
  rw [(tour_covers_tree directory).yields]
  exact exists_congr fun names => and_congr_right fun _ => tree.yields_iff laws finds

omit laws finds in
theorem PlainTree.nothingUnlistable :
    Walk.unlistable ⟨tour world .standard root, none⟩ = [] := by
  rw [List.eq_nil_iff_forall_not_mem]
  rintro ⟨path, error⟩ member
  obtain ⟨names, _, ⟨inner, there⟩, _, _, failed⟩ :=
    ((tour_covers_tree directory).reports path error).mp member
  rw [tree.listed names inner there] at failed
  cases failed

theorem PlainTree.unbroken_iff : (walk world .standard root).broken = none ↔
    ∀ names node, entries.at? names = some node → ClearOfDependencies names →
      world.CanTell (root.descend names) := by
  rw [walk_unbroken_directory directory]
  refine forall₂_congr fun names node => ?_
  rw [Node.at?_directory]
  refine forall_congr' fun there => ?_
  rw [← tree.opensAbove_iff laws finds there, ShellSurvey.opensAbove_iff there]

theorem PlainTree.leavesDependencies :
    (walk world .standard root).LeavesDependencies world root entries := by
  have begins := walk_begins world .standard root
  have fewer : (walk world .standard root).paths.Sublist
      (Walk.paths ⟨tour world .standard root, none⟩) := begins.first.sublist.filterMap _
  have fewerUnlistable : (walk world .standard root).unlistable.Sublist
      (Walk.unlistable ⟨tour world .standard root, none⟩) := begins.first.sublist.filterMap _
  refine ⟨fun path member => (tree.mem_tour laws finds directory).mp (fewer.subset member), ?_,
    (tour_covers_tree directory).yieldsInOrder.sublist (fewer.map _), ?_, tree.unbroken_iff laws finds directory⟩
  · intro unbroken names own
    have member := (tree.mem_tour laws finds directory).mpr ⟨names, rfl, own⟩
    rw [Walk.mem_paths] at member ⊢
    rw [begins.whole unbroken]
    exact member
  · rw [tree.nothingUnlistable directory] at fewerUnlistable
    exact List.sublist_nil.mp fewerUnlistable

end

/-- With the standard exclusion, a walk from a real directory leaves out dependencies and nothing else.
From anything else it yields that alone, and it breaks off at once if it cannot be told what the root
leads to. -/
theorem walk_leaves_dependencies [PatternLibrary] (laws : PatternLibrary.Laws)
    (finds : PatternLibrary.FindsDirectories dependencyNames) (world : World) (root : Path)
    (tree : ∀ entries, world.disk.directoryAt? root = some entries → PlainTree world root entries) :
    Exclusion.ofPatterns standardPatterns [] = .ok .standard ∧
    (∀ entries, world.disk.directoryAt? root = some entries →
      (walk world .standard root).LeavesDependencies world root entries) ∧
    (world.disk.directoryAt? root = none → world.CanTell root →
      walk world .standard root = ⟨[.entry root], none⟩) ∧
    ∀ error, world.leadsToDirectory root.text = .error error →
      walk world .standard root = ⟨[], some error⟩ := by
  refine ⟨Exclusion.standard_made laws finds,
    fun entries directory => (tree entries directory).leavesDependencies laws finds directory, ?_,
    fun error untold => walk_untold untold .standard⟩
  intro noDirectory told
  have unbroken : (walk world .standard root).broken = none :=
    (walk_unbroken_alone noDirectory).mpr told
  rw [(walk_begins world .standard root).eq_of_unbroken unbroken, tour, noDirectory]

theorem walk_leaves_dependencies_cabinet :
    (∀ entries, (World.ofDisk cabinet.disk).disk.directoryAt? .here = some entries →
      PlainTree (.ofDisk cabinet.disk) .here entries) ∧
    (walk (.ofDisk cabinet.disk) .standard .here).LeavesDependencies (.ofDisk cabinet.disk) .here
      cabinetEntries ∧
    OwnEntry cabinetEntries ["lib", "b"] ∧ ¬ OwnEntry cabinetEntries [".git", "hook"] := by
  have tree : ∀ entries, (World.ofDisk cabinet.disk).disk.directoryAt? .here = some entries →
      PlainTree (.ofDisk cabinet.disk) .here entries := by
    intro entries directory
    cases (cabinet_directoryAt?).symm.trans directory
    exact ⟨Node.names_of_chains (by decide), fun _ _ _ => rfl⟩
  have leaves := walk_leaves_dependencies wildmatch_laws wildmatch_findsDirectories
    (.ofDisk cabinet.disk) .here tree
  refine ⟨tree, leaves.2.1 cabinetEntries cabinet_directoryAt?, ?_, ?_⟩
  · exact ⟨⟨_, rfl, rfl⟩, by decide⟩
  · exact fun own => absurd own.clear (by decide)

/-- Two scripts, and between them a link to a name that is too long. -/
def tornEntries : Listing :=
  [("a.sh", .file [] 0o644), ("b", .link overlong), ("c.sh", .file [] 0o644)]

theorem tornEntries_ordered : ListingOrdered tornEntries := by
  simp only [tornEntries, ListingOrdered, Node.Ordered, List.mem_cons, List.not_mem_nil, or_false,
    forall_eq_or_imp, forall_eq, false_implies, implies_true, and_true, true_and]
  decide

def tornWorld : World := .ofDisk ⟨tornEntries, tornEntries_ordered⟩

theorem tornWorld_plain : PlainTree tornWorld .here tornEntries := by
  refine ⟨Node.names_of_chains ?_, fun _ _ _ => rfl⟩
  simp only [tornEntries, Node.chains, chainsOf, List.map_cons, List.map_nil, List.cons_append,
    List.nil_append, List.forall_mem_cons, List.not_mem_nil, false_implies, implies_true, and_true]
  decide

theorem tornWorld_script : walkLeaf tornWorld .standard (.ofText "a.sh") (.ofText "a.sh") =
    .single (.entry (.ofText "a.sh")) := by
  have found : tornWorld.disk.lookup true "a.sh" = .ok (.file [] 0o644) := by
    refine Disk.lookup_name rfl ?_ ?_ ?_ ?_ ?_ ?_ <;> decide
  have text : (Path.ofText "a.sh").text = "a.sh" := by decide
  have told : tornWorld.CanTell (.ofText "a.sh") :=
    ⟨false, by rw [World.leadsToDirectory_calm rfl, text, Disk.leadsToDirectory, found]⟩
  have kept : ¬ Exclusion.standard.PassesOver (.ofText "a.sh") false := by
    have below : Path.ofText "a.sh" = Path.here.descend ["a.sh"] := by decide
    rintro ⟨_, skipped⟩
    rw [below, skips_standard_iff wildmatch_laws wildmatch_findsDirectories (by decide) (by simp)]
      at skipped
    obtain ⟨_, member, _⟩ := skipped
    cases member
  rw [walkLeaf_eq_tour told, tourLeaf, if_neg kept]
  rfl

theorem tornWorld_link : walkLeaf tornWorld .standard (.ofText "b") (.ofText "b") =
    ⟨[], some (.system .nameTooLong "b")⟩ := by
  have untold : ¬ tornWorld.disk.CanTell (.ofText "b") :=
    Disk.not_canTell_of_long_link (by decide) (by decide) (by decide) rfl properName_overlong
      (overlong_ne (by decide)) nameLimit_lt_overlong
  exact walkLeaf_untold (World.leadsToDirectory_untold rfl untold) .standard _

/-- A walk is broken off at a link to a name that is too long: it yields neither the link nor the script
behind it. -/
theorem walk_torn :
    PlainTree tornWorld .here tornEntries ∧
      walk tornWorld .standard .here =
        ⟨[.entry (.ofText "a.sh")], some (.system .nameTooLong "b")⟩ ∧
      ¬ ∀ names, OwnEntry tornEntries names →
        Path.here.descend names ∈ (walk tornWorld .standard .here).paths := by
  have firstPath : Path.here.child "a.sh" = .ofText "a.sh" := by decide
  have linkPath : Path.here.child "b" = .ofText "b" := by decide
  have start : tornWorld.leadsToDirectory Path.here.text = .ok true := by
    rw [World.leadsToDirectory_calm rfl, Disk.leadsToDirectory, Disk.lookup_here]
  have inside : walkEntries tornWorld .standard .here .here tornEntries =
      ⟨[.entry (.ofText "a.sh")], some (.system .nameTooLong "b")⟩ := by
    rw [tornEntries, walkEntries, walkEntries, walkNode, walkNode, firstPath, linkPath,
      tornWorld_script, tornWorld_link]
    rfl
  have yielded : walk tornWorld .standard .here =
      ⟨[.entry (.ofText "a.sh")], some (.system .nameTooLong "b")⟩ := by
    rw [walk, Disk.lookup_here]
    dsimp only
    rw [walkNode, start]
    exact inside
  refine ⟨tornWorld_plain, yielded, fun all => ?_⟩
  have behind := all ["c.sh"] ⟨⟨_, rfl, rfl⟩, by decide⟩
  rw [yielded] at behind
  exact absurd behind (by decide)

end ShellSurvey
