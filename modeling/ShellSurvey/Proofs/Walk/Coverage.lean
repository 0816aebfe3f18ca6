import Mathlib.Data.List.Basic
import ShellSurvey.Proofs.Walk.Following
import ShellSurvey.Proofs.Walk.Names
import ShellSurvey.Proofs.Walk.Telling

namespace ShellSurvey

/-- The directory at a chain of names below a root is one that a walk goes into. The root is never
skipped. -/
structure Opens (world : World) (exclusion : Exclusion) (root : Path) (entries : Listing)
    (names : List String) : Prop where
  directory : ∃ inner, entries.at? names = some (.directory inner)
  kept : names ≠ [] → exclusion.skips (Path.here.descend names) true = false
  listed : world.faults .listing (root.descend names).text = none

/-- A walk goes into every directory above a chain of names, the root first. -/
def OpensAbove (world : World) (exclusion : Exclusion) (root : Path) (entries : Listing)
    (names : List String) : Prop :=
  ∀ above, above <+: names → above ≠ names → Opens world exclusion root entries above

/-- A walk yields what lies at a chain of names. -/
structure Yields (world : World) (exclusion : Exclusion) (root : Path) (entries : Listing)
    (names : List String) : Prop where
  leaf : ∃ node, entries.at? names = some node ∧ node.isDirectory = false
  kept : exclusion.skips (Path.here.descend names) false = false
  above : OpensAbove world exclusion root entries names

/-- A walk reports the directory at a chain of names, which cannot be listed. -/
structure Reports (world : World) (exclusion : Exclusion) (root : Path) (entries : Listing)
    (names : List String) (error : FileError) : Prop where
  directory : ∃ inner, entries.at? names = some (.directory inner)
  kept : names ≠ [] → exclusion.skips (Path.here.descend names) true = false
  above : OpensAbove world exclusion root entries names
  failed : world.faults .listing (root.descend names).text = some error

/-- A walk that covers the tree below a root. -/
structure Walk.Covers (walk : Walk) (world : World) (exclusion : Exclusion) (root : Path)
    (entries : Listing) : Prop where
  unbroken : walk.broken = none
  yields : ∀ path, path ∈ walk.paths ↔
    ∃ names, path = root.descend names ∧ Yields world exclusion root entries names
  yieldsInOrder : (walk.paths.map Path.parts).Pairwise (· < ·)
  reports : ∀ path error, (path, error) ∈ walk.unlistable ↔
    ∃ names, path = root.descend names ∧ Reports world exclusion root entries names error
  reportsInOrder : (walk.unlistable.map fun report => report.1.parts).Pairwise (· < ·)

def Visit.isEntry : Visit → Bool
  | .entry _ => true
  | .unlistable _ _ => false

/-- A visit as it is seen from a root: whether to an entry, and where. -/
def Visit.seenFrom (root : Path) (visit : Visit) : Bool × List String :=
  (visit.isEntry, visit.path.parts.drop root.parts.length)

theorem passesOver_here {exclusion : Exclusion} {names : List String} {isDirectory : Bool} :
    ¬ exclusion.PassesOver (Path.here.descend names) isDirectory ↔
      (names ≠ [] → exclusion.skips (Path.here.descend names) isDirectory = false) := by
  simp [Exclusion.PassesOver, Path.here, Path.descend]

theorem Listing.at?_prefix {entries : Listing} {above names : List String} {node : Node}
    (front : above <+: names) (different : above ≠ names) (there : entries.at? names = some node) :
    ∃ inner, entries.at? above = some (.directory inner) := by
  induction above generalizing entries names with
  | nil => exact ⟨entries, rfl⟩
  | cons name above ih =>
    obtain ⟨more, rfl⟩ := front
    rw [List.cons_append, Listing.at?_cons, Option.bind_eq_some_iff] at there
    obtain ⟨next, known, there⟩ := there
    rw [Listing.at?_cons, known, Option.bind_some]
    have longer : above ≠ above ++ more := fun same => different (congrArg (name :: ·) same)
    cases next with
    | directory inner =>
      rw [Node.at?_directory] at there ⊢
      exact ih (List.prefix_append above more) longer there
    | file content mode | pipe mode | link target =>
      -- Nothing lies below an entry that is no directory.
      cases above with
      | nil =>
        cases more with
        | nil => exact absurd rfl longer
        | cons name more => cases there
      | cons name above => cases there

section

variable {world : World} {exclusion : Exclusion} {root : Path} {entries : Listing}

theorem opensAbove_iff {names : List String} {node : Node}
    (there : entries.at? names = some node) :
    OpensAbove world exclusion root entries names ↔
      Reaches (world.faults .listing) exclusion root .here names := by
  constructor
  · intro opened above front different
    obtain ⟨_, kept, listed⟩ := opened above front different
    exact ⟨passesOver_here.mpr kept, listed⟩
  · intro reached above front different
    obtain ⟨kept, listed⟩ := reached above front different
    exact ⟨Listing.at?_prefix front different there, passesOver_here.mp kept, listed⟩

theorem Node.visit?_eq_entry_iff {listing : String → Option FileError} {path below other : Path}
    {node : Node} :
    node.visit? listing exclusion path below = some (.entry other) ↔
      node.isDirectory = false ∧ ¬ exclusion.PassesOver below false ∧ path = other := by
  have leaf : (if exclusion.PassesOver below false then none else some (Visit.entry path)) =
      some (.entry other) ↔ ¬ exclusion.PassesOver below false ∧ path = other := by
    split <;> simp_all
  cases node with
  | directory entries =>
    simp only [visit?, isDirectory]
    split <;> simp
  | file content mode | pipe mode | link target =>
    simp only [visit?, isDirectory, true_and]
    exact leaf

theorem Node.visit?_eq_unlistable_iff {listing : String → Option FileError}
    {path below other : Path} {error : FileError} {node : Node} :
    node.visit? listing exclusion path below = some (.unlistable other error) ↔
      (∃ inner, node = .directory inner) ∧ ¬ exclusion.PassesOver below true ∧
        listing path.text = some error ∧ path = other := by
  cases node with
  | directory entries =>
    simp only [visit?]
    split
    · next skipped => simp [skipped]
    · next kept =>
      rw [Option.map_eq_some_iff]
      constructor
      · rintro ⟨failure, failed, same⟩
        cases same
        exact ⟨⟨entries, rfl⟩, kept, failed, rfl⟩
      · rintro ⟨_, _, failed, rfl⟩
        exact ⟨error, failed, rfl⟩
  | file content mode | pipe mode | link target =>
    simp only [visit?]
    split <;> simp

theorem Walk.mem_paths {walk : Walk} {path : Path} : path ∈ walk.paths ↔ .entry path ∈ walk.visits := by
  simp only [paths, List.mem_filterMap]
  constructor
  · rintro ⟨visit, member, same⟩
    cases visit with
    | entry other => cases same; exact member
    | unlistable other error => cases same
  · exact fun member => ⟨_, member, rfl⟩

theorem Walk.mem_unlistable {walk : Walk} {path : Path} {error : FileError} :
    (path, error) ∈ walk.unlistable ↔ .unlistable path error ∈ walk.visits := by
  simp only [unlistable, List.mem_filterMap]
  constructor
  · rintro ⟨visit, member, same⟩
    cases visit with
    | entry other => cases same
    | unlistable other failure => cases same; exact member
  · exact fun member => ⟨_, member, rfl⟩

theorem tour_covers (ordered : ListingOrdered entries) :
    Walk.Covers
      ⟨tourNode (world.faults .listing) exclusion root .here (.directory entries), none⟩
      world exclusion root entries := by
  have inOrder : (Node.directory entries).Ordered := ordered
  have sorted : (tourNode (world.faults .listing) exclusion root .here
      (.directory entries)).Pairwise fun first second => first.path.parts < second.path.parts :=
    pairwise_tourNode inOrder root .here
  refine ⟨rfl, ?_, ?_, ?_, ?_⟩
  · intro path
    rw [Walk.mem_paths, mem_tourNode inOrder]
    simp only [Meets, Node.at?_directory, Node.visit?_eq_entry_iff, passesOver_here]
    constructor
    · rintro ⟨names, node, there, reached, leaf, kept, rfl⟩
      have below : names ≠ [] := by
        rintro rfl
        cases there
        cases leaf
      exact ⟨names, rfl, ⟨node, there, leaf⟩, kept below, (opensAbove_iff there).mpr reached⟩
    · rintro ⟨names, rfl, ⟨node, there, leaf⟩, kept, above⟩
      exact ⟨names, node, there, (opensAbove_iff there).mp above, leaf, fun _ => kept, rfl⟩
  · rw [List.pairwise_map]
    refine List.Pairwise.filterMap _ ?_ sorted
    intro first second before one oneYielded other otherYielded
    cases first <;> cases second <;> cases oneYielded <;> cases otherYielded
    exact before
  · intro path error
    rw [Walk.mem_unlistable, mem_tourNode inOrder]
    simp only [Meets, Node.at?_directory, Node.visit?_eq_unlistable_iff, passesOver_here]
    constructor
    · rintro ⟨names, _, there, reached, ⟨inner, rfl⟩, kept, failed, rfl⟩
      exact ⟨names, rfl, ⟨inner, there⟩, kept, (opensAbove_iff there).mpr reached, failed⟩
    · rintro ⟨names, rfl, ⟨inner, there⟩, kept, above, failed⟩
      exact ⟨names, _, there, (opensAbove_iff there).mp above, ⟨inner, rfl⟩, kept, failed, rfl⟩
  · rw [List.pairwise_map]
    refine List.Pairwise.filterMap _ ?_ sorted
    intro first second before one oneReported other otherReported
    cases first <;> cases second <;> cases oneReported <;> cases otherReported
    exact before

end

theorem Path.child_descend (root : Path) (done : List String) (name : String) :
    (root.descend done).child name = root.descend (done ++ [name]) := by
  simp [descend, child]

theorem Visit.seenFrom_entry (root : Path) (done : List String) :
    (Visit.entry (root.descend done)).seenFrom root = (true, done) := by
  simp [seenFrom, isEntry, Visit.path, Path.descend]

theorem Visit.seenFrom_unlistable (root : Path) (done : List String) (error : FileError) :
    (Visit.unlistable (root.descend done) error).seenFrom root = (false, done) := by
  simp [seenFrom, isEntry, Visit.path, Path.descend]

/-- Seen from its root, a tour is the same from another root with the same tree below it, if the same
directories cannot be listed. -/
theorem tourNode_seenFrom {listing elsewhere : String → Option FileError} {exclusion : Exclusion}
    {root other : Path}
    (sameFaults : ∀ names, (listing (root.descend names).text).isSome =
      (elsewhere (other.descend names).text).isSome)
    (node : Node) (done : List String) (below : Path) :
    (tourNode listing exclusion (root.descend done) below node).map (Visit.seenFrom root) =
      (tourNode elsewhere exclusion (other.descend done) below node).map
        (Visit.seenFrom other) := by
  have leaf (done : List String) (below : Path) :
      (tourLeaf exclusion (root.descend done) below).map (Visit.seenFrom root) =
        (tourLeaf exclusion (other.descend done) below).map (Visit.seenFrom other) := by
    unfold tourLeaf
    split
    · rfl
    · simp [Visit.seenFrom_entry]
  induction node using Node.inductionOn generalizing done below with
  | file content mode => simp only [tourNode]; exact leaf done below
  | pipe mode => simp only [tourNode]; exact leaf done below
  | link target => simp only [tourNode]; exact leaf done below
  | directory entries ih =>
    simp only [tourNode]
    split
    · rfl
    have same := sameFaults done
    cases here : listing (root.descend done).text <;>
      cases there : elsewhere (other.descend done).text <;> rw [here, there] at same
    · simp only [tourEntries_eq_flatMap, List.map_flatMap]
      refine List.flatMap_congr fun entry member => ?_
      rw [Path.child_descend, Path.child_descend]
      exact ih entry member (done ++ [entry.1]) (below.child entry.1)
    · cases same
    · cases same
    · simp [Visit.seenFrom_unlistable]

/-- A walk from a real directory covers the tree below it; from anything else it yields that alone,
whatever the exclusion. Seen from the root, it visits the same wherever the tree lies. -/
theorem walk_covers_tree (world : World) (exclusion : Exclusion) (root : Path)
    (told : world.TellsTree root) :
    (∀ entries, world.disk.directoryAt? root = some entries →
      (walk world exclusion root).Covers world exclusion root entries) ∧
    (world.disk.directoryAt? root = none → walk world exclusion root = ⟨[.entry root], none⟩) ∧
    (∀ (elsewhere : World) (other : Path), elsewhere.TellsTree other →
      elsewhere.disk.directoryAt? other = world.disk.directoryAt? root →
      (∀ names, (world.faults .listing (root.descend names).text).isSome =
        (elsewhere.faults .listing (other.descend names).text).isSome) →
      (walk world exclusion root).visits.map (Visit.seenFrom root) =
        (walk elsewhere exclusion other).visits.map (Visit.seenFrom other)) := by
  refine ⟨?_, ?_, ?_⟩
  · intro entries directory
    rw [walk_eq_tour told, tour, directory]
    exact tour_covers (Disk.directoryAt?_ordered directory)
  · intro noDirectory
    rw [walk_eq_tour told, tour, noDirectory]
  · intro elsewhere other otherTold sameTree sameFaults
    rw [walk_eq_tour told, walk_eq_tour otherTold, tour, tour, sameTree]
    cases world.disk.directoryAt? root with
    | none => simp [Visit.seenFrom, Visit.isEntry, Visit.path]
    | some entries => simpa using tourNode_seenFrom sameFaults (.directory entries) [] .here

/-- A tree with a bit of everything: a directory that the standard exclusion skips, links to a file and
to a directory, a pipe, and a directory that is going to be unlistable. -/
def cabinetEntries : Listing :=
  [(".git", .directory [("hook", .file [] 0o755)]), ("a.sh", .file [0x78] 0o644),
    ("lib", .directory [("b", .link "../a.sh"), ("c.sh", .pipe 0o644)]),
    ("shut", .directory [("d.sh", .file [] 0o644)]), ("up", .link "lib")]

theorem cabinetEntries_ordered : ListingOrdered cabinetEntries := by
  simp only [cabinetEntries, ListingOrdered, Node.Ordered, List.mem_cons, List.not_mem_nil, or_false,
    forall_eq_or_imp, forall_eq, false_implies, implies_true, and_true, true_and]
  decide

/-- A world with this tree, where every tool accepts a script and takes it away. -/
def cabinet : World where
  disk := ⟨cabinetEntries, cabinetEntries_ordered⟩
  faults := fun stage path =>
    if stage = .listing ∧ path = "shut" then some (.system .accessDenied path) else none
  tools := fun _ => some fun _ _ => .answered { removesScript := true }

theorem cabinet_directoryAt? : cabinet.disk.directoryAt? .here = some cabinetEntries :=
  Disk.directoryAt?_here cabinet.disk

theorem cabinet_tellsKinds : cabinet.TellsKinds := fun _ => rfl

theorem cabinet_tellsTree : cabinet.TellsTree .here := by
  refine World.tellsTree_of_fits cabinet_tellsKinds (by decide) (by decide) fun entries directory => ?_
  rw [cabinet_directoryAt?] at directory
  cases directory
  decide

theorem cabinet_told : ∀ root ∈ [".", "lib"], cabinet.TellsTree (.ofText root) := by
  have here : Path.ofText "." = .here := by decide
  have lib : cabinet.disk.directoryAt? (.ofText "lib") =
      some [("b", .link "../a.sh"), ("c.sh", .pipe 0o644)] :=
    Disk.directoryAt?_name (by decide) (by decide) (by decide) (by decide) rfl
  simp only [List.mem_cons, List.not_mem_nil, or_false, forall_eq_or_imp, forall_eq]
  refine ⟨here ▸ cabinet_tellsTree, World.tellsTree_of_fits cabinet_tellsKinds (by decide) (by decide) ?_⟩
  intro entries directory
  rw [lib] at directory
  cases directory
  decide

theorem walk_covers_tree_cabinet :
    cabinet.TellsTree .here ∧ (walk cabinet .standard .here).Covers cabinet .standard .here cabinetEntries :=
  ⟨cabinet_tellsTree, (walk_covers_tree cabinet .standard .here cabinet_tellsTree).1 cabinetEntries
    cabinet_directoryAt?⟩

end ShellSurvey
