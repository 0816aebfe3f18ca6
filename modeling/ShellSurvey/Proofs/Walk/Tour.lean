import ShellSurvey.Proofs.Disk.Tree
import ShellSurvey.Walk

namespace ShellSurvey

/-- The path of what lies at a chain of names below a path. -/
def Path.descend (path : Path) (names : List String) : Path :=
  { path with parts := path.parts ++ names }

@[simp] theorem Path.descend_nil (path : Path) : path.descend [] = path := by
  simp [descend]

@[simp] theorem Path.descend_child (path : Path) (name : String) (more : List String) :
    (path.child name).descend more = path.descend (name :: more) := by
  simp [descend, child]

theorem Path.parts_descend (path : Path) (names : List String) :
    (path.descend names).parts = path.parts ++ names := rfl

theorem Path.descend_injective {path : Path} {names others : List String}
    (same : path.descend names = path.descend others) : names = others :=
  List.append_cancel_left (congrArg Path.parts same)

def Visit.path : Visit → Path
  | .entry path => path
  | .unlistable path _ => path

/-- An exclusion never passes over a root. -/
def Exclusion.PassesOver (exclusion : Exclusion) (below : Path) (isDirectory : Bool) : Prop :=
  below.parts ≠ [] ∧ exclusion.skips below isDirectory = true

instance (exclusion : Exclusion) (below : Path) (isDirectory : Bool) :
    Decidable (exclusion.PassesOver below isDirectory) :=
  inferInstanceAs (Decidable (_ ∧ _))

section

variable (listing : String → Option FileError) (exclusion : Exclusion)

/-- The visit to an entry that is no directory. -/
def tourLeaf (path below : Path) : List Visit :=
  if exclusion.PassesOver below false then [] else [.entry path]

mutual

/-- The tour from a node at a path, known below the root as `below`. -/
def tourNode (path below : Path) : Node → List Visit
  | .directory entries =>
    if exclusion.PassesOver below true then []
    else
      match listing path.text with
      | some error => [.unlistable path error]
      | none => tourEntries path below entries
  | .file _ _ => tourLeaf exclusion path below
  | .pipe _ => tourLeaf exclusion path below
  | .link _ => tourLeaf exclusion path below

def tourEntries (path below : Path) : List (String × Node) → List Visit
  | [] => []
  | (name, node) :: rest =>
    tourNode (path.child name) (below.child name) node ++ tourEntries path below rest

end

theorem tourEntries_eq_flatMap (path below : Path) (entries : Listing) :
    tourEntries listing exclusion path below entries =
      entries.flatMap fun entry =>
        tourNode listing exclusion (path.child entry.1) (below.child entry.1) entry.2 := by
  induction entries with
  | nil => rw [tourEntries]; rfl
  | cons head rest ih => rw [tourEntries, ih, List.flatMap_cons]

end

/-- The directory that a path names itself, not by following a link at its end. -/
def Disk.directoryAt? (disk : Disk) (path : Path) : Option Listing :=
  match disk.lookup false path.text with
  | .ok (.directory entries) => some entries
  | _ => none

theorem Disk.directoryAt?_eq_some_iff {disk : Disk} {path : Path} {entries : Listing} :
    disk.directoryAt? path = some entries ↔
      disk.lookup false path.text = .ok (.directory entries) := by
  unfold directoryAt?
  cases disk.lookup false path.text with
  | error refusal => simp
  | ok node => cases node <;> simp

theorem Disk.directoryAt?_ordered {disk : Disk} {path : Path} {entries : Listing}
    (directory : disk.directoryAt? path = some entries) : ListingOrdered entries :=
  Disk.lookup_ordered (directoryAt?_eq_some_iff.mp directory)

/-- What a path leads to can be told. -/
def World.CanTell (world : World) (path : Path) : Prop :=
  ∃ answer, world.leadsToDirectory path.text = .ok answer

/-- It can be told of a root and of everything in the tree below it what it leads to. -/
structure World.TellsTree (world : World) (root : Path) : Prop where
  atRoot : world.CanTell root
  within : ∀ entries, world.disk.directoryAt? root = some entries →
    ∀ names node, entries.at? names = some node → world.CanTell (root.descend names)

/-- The tour from a root. -/
def tour (world : World) (exclusion : Exclusion) (root : Path) : List Visit :=
  match world.disk.directoryAt? root with
  | some entries => tourNode (world.faults .listing) exclusion root .here (.directory entries)
  | none => [.entry root]

section

variable {listing : String → Option FileError} {exclusion : Exclusion}

/-- The tour goes into the directory at a chain of names: it is not passed over and can be listed. -/
structure Enters (listing : String → Option FileError) (exclusion : Exclusion) (path below : Path)
    (names : List String) : Prop where
  kept : ¬ exclusion.PassesOver (below.descend names) true
  listed : listing (path.descend names).text = none

theorem enters_nil {path below : Path} :
    Enters listing exclusion path below [] ↔
      ¬ exclusion.PassesOver below true ∧ listing path.text = none :=
  ⟨fun entered => ⟨by simpa using entered.kept, by simpa using entered.listed⟩,
    fun both => ⟨by simpa using both.1, by simpa using both.2⟩⟩

/-- The tour gets to what lies at a chain of names: it goes into every directory above. -/
def Reaches (listing : String → Option FileError) (exclusion : Exclusion) (path below : Path)
    (names : List String) : Prop :=
  ∀ above, above <+: names → above ≠ names → Enters listing exclusion path below above

theorem reaches_nil (path below : Path) : Reaches listing exclusion path below [] :=
  fun _ front different => absurd (List.prefix_nil.mp front) different

theorem reaches_cons {path below : Path} {name : String} {more : List String} :
    Reaches listing exclusion path below (name :: more) ↔
      Enters listing exclusion path below [] ∧
        Reaches listing exclusion (path.child name) (below.child name) more := by
  have shift (above : List String) :
      Enters listing exclusion (path.child name) (below.child name) above ↔
        Enters listing exclusion path below (name :: above) := by
    constructor <;> rintro ⟨kept, listed⟩ <;> exact ⟨by simpa using kept, by simpa using listed⟩
  constructor
  · intro reached
    refine ⟨reached [] List.nil_prefix (List.cons_ne_nil _ _).symm, fun above front different => ?_⟩
    rw [shift]
    exact reached (name :: above) (List.cons_prefix_cons.mpr ⟨rfl, front⟩) (by simpa using different)
  · rintro ⟨entered, reached⟩ above front different
    rcases List.prefix_cons_iff.mp front with rfl | ⟨rest, rfl, within⟩
    · exact entered
    · rw [← shift]
      exact reached rest within (by simpa using different)

/-- The visit that a tour makes to a node that it gets to, if any. -/
def Node.visit? (listing : String → Option FileError) (exclusion : Exclusion) (path below : Path) :
    Node → Option Visit
  | .directory _ =>
    if exclusion.PassesOver below true then none
    else (listing path.text).map (.unlistable path)
  | _ => if exclusion.PassesOver below false then none else some (.entry path)

theorem Node.path_of_visit? {node : Node} {path below : Path} {visit : Visit}
    (visited : node.visit? listing exclusion path below = some visit) : visit.path = path := by
  have leaf (visited : (if exclusion.PassesOver below false then none else some (Visit.entry path)) =
      some visit) : visit.path = path := by
    split at visited
    · cases visited
    · cases visited; rfl
  cases node with
  | directory entries =>
    simp only [visit?] at visited
    split at visited
    · cases visited
    · obtain ⟨error, _, rfl⟩ := Option.map_eq_some_iff.mp visited
      rfl
  | file content mode => exact leaf visited
  | pipe mode => exact leaf visited
  | link target => exact leaf visited

theorem mem_tourLeaf {path below : Path} {visit : Visit} :
    visit ∈ tourLeaf exclusion path below ↔
      (if exclusion.PassesOver below false then none else some (Visit.entry path)) = some visit := by
  unfold tourLeaf
  split <;> simp [eq_comm]

theorem mem_tourEntries {entries : Listing} {path below : Path} {visit : Visit} :
    visit ∈ tourEntries listing exclusion path below entries ↔
      ∃ entry ∈ entries,
        visit ∈ tourNode listing exclusion (path.child entry.1) (below.child entry.1) entry.2 := by
  rw [tourEntries_eq_flatMap, List.mem_flatMap]

/-- The tour from a node gets to one that it makes a visit to. -/
def Meets (listing : String → Option FileError) (exclusion : Exclusion) (path below : Path)
    (node : Node) (visit : Visit) : Prop :=
  ∃ names found, node.at? names = some found ∧ Reaches listing exclusion path below names ∧
    found.visit? listing exclusion (path.descend names) (below.descend names) = some visit

theorem meets_leaf {node : Node} (noDirectory : node.isDirectory = false) {path below : Path}
    {visit : Visit} :
    Meets listing exclusion path below node visit ↔
      node.visit? listing exclusion path below = some visit := by
  constructor
  · rintro ⟨names, found, there, _, visited⟩
    cases names with
    | nil =>
      rw [Node.at?_nil] at there
      cases there
      simpa using visited
    | cons name more =>
      cases node with
      | directory entries => cases noDirectory
      | file content mode | pipe mode | link target => cases there
  · exact fun visited => ⟨[], node, node.at?_nil, reaches_nil path below, by simpa using visited⟩

/-- From a directory a tour makes the visit to it, or goes into it and on from one of its entries. -/
theorem meets_directory {entries : Listing} (ordered : ListingOrdered entries) {path below : Path}
    {visit : Visit} :
    Meets listing exclusion path below (.directory entries) visit ↔
      (Node.directory entries).visit? listing exclusion path below = some visit ∨
        Enters listing exclusion path below [] ∧ ∃ entry ∈ entries,
          Meets listing exclusion (path.child entry.1) (below.child entry.1) entry.2 visit := by
  constructor
  · rintro ⟨names, found, there, reached, visited⟩
    cases names with
    | nil =>
      rw [Node.at?_nil] at there
      cases there
      exact Or.inl (by simpa using visited)
    | cons name more =>
      rw [Node.at?_directory, Listing.at?_cons, Option.bind_eq_some_iff] at there
      obtain ⟨node, known, there⟩ := there
      obtain ⟨entered, reached⟩ := reaches_cons.mp reached
      exact Or.inr ⟨entered, (name, node), ordered.lookup_eq_some_iff.mp known, more, found, there,
        reached, by simpa using visited⟩
  · rintro (visited | ⟨entered, entry, known, names, found, there, reached, visited⟩)
    · exact ⟨[], _, Node.at?_nil _, reaches_nil path below, by simpa using visited⟩
    · refine ⟨entry.1 :: names, found, ?_, reaches_cons.mpr ⟨entered, reached⟩,
        by simpa using visited⟩
      rw [Node.at?_directory, Listing.at?_cons, ordered.lookup_eq_some_iff.mpr known]
      exact there

/-- The visits of a tour are those to the nodes that it gets to. -/
theorem mem_tourNode {node : Node} (ordered : node.Ordered) {path below : Path} {visit : Visit} :
    visit ∈ tourNode listing exclusion path below node ↔
      Meets listing exclusion path below node visit := by
  induction node using Node.inductionOn generalizing path below with
  | file content mode => rw [tourNode, mem_tourLeaf, meets_leaf rfl]; rfl
  | pipe mode => rw [tourNode, mem_tourLeaf, meets_leaf rfl]; rfl
  | link target => rw [tourNode, mem_tourLeaf, meets_leaf rfl]; rfl
  | directory entries ih =>
    have inOrder : ListingOrdered entries := ordered
    rw [tourNode, meets_directory inOrder, enters_nil, Node.visit?]
    by_cases skipped : exclusion.PassesOver below true
    · simp [skipped]
    · rw [if_neg skipped, if_neg skipped]
      cases listed : listing path.text with
      | some error => simp [eq_comm]
      | none =>
        have below : (∃ entry ∈ entries, visit ∈ tourNode listing exclusion (path.child entry.1)
              (below.child entry.1) entry.2) ↔
            ∃ entry ∈ entries,
              Meets listing exclusion (path.child entry.1) (below.child entry.1) entry.2 visit :=
          exists_congr fun entry => and_congr_right fun known => ih entry known (inOrder.of_mem known)
        simp [mem_tourEntries, below, skipped]

/-- A tour stays at its path and below. -/
theorem path_of_mem_tourNode {node : Node} (ordered : node.Ordered) {path below : Path}
    {visit : Visit} (member : visit ∈ tourNode listing exclusion path below node) :
    ∃ names, visit.path = path.descend names := by
  obtain ⟨names, found, _, _, visited⟩ := (mem_tourNode ordered).mp member
  exact ⟨names, Node.path_of_visit? visited⟩

theorem path_of_mem_tour {world : World} {exclusion : Exclusion} {root : Path} {visit : Visit}
    (member : visit ∈ tour world exclusion root) : ∃ names, visit.path = root.descend names := by
  unfold tour at member
  cases directory : world.disk.directoryAt? root with
  | some entries =>
    rw [directory] at member
    have inOrder : (Node.directory entries).Ordered := Disk.directoryAt?_ordered directory
    exact path_of_mem_tourNode inOrder member
  | none =>
    rw [directory, List.mem_singleton] at member
    exact ⟨[], by rw [member, Path.descend_nil, Visit.path]⟩

/-- A tour comes upon everything in order of names, and once. -/
theorem pairwise_tourNode {node : Node} (ordered : node.Ordered) (path below : Path) :
    (tourNode listing exclusion path below node).Pairwise fun first second =>
      first.path.parts < second.path.parts := by
  have leaf (path below : Path) : (tourLeaf exclusion path below).Pairwise fun first second =>
      first.path.parts < second.path.parts := by
    unfold tourLeaf
    split
    · exact .nil
    · exact List.pairwise_singleton _ _
  induction node using Node.inductionOn generalizing path below with
  | file content mode => rw [tourNode]; exact leaf path below
  | pipe mode => rw [tourNode]; exact leaf path below
  | link target => rw [tourNode]; exact leaf path below
  | directory entries ih =>
    have inOrder : ListingOrdered entries := ordered
    rw [tourNode]
    split
    · exact .nil
    split
    · exact List.pairwise_singleton _ _
    rw [tourEntries_eq_flatMap, List.pairwise_flatMap]
    refine ⟨fun entry known => ih entry known (inOrder.of_mem known) _ _, ?_⟩
    refine inOrder.pairwise.imp_of_mem ?_
    intro first second firstKnown secondKnown before one oneMember other otherMember
    obtain ⟨names, onePath⟩ := path_of_mem_tourNode (inOrder.of_mem firstKnown) oneMember
    obtain ⟨others, otherPath⟩ := path_of_mem_tourNode (inOrder.of_mem secondKnown) otherMember
    rw [onePath, otherPath, Path.descend_child, Path.descend_child, Path.parts_descend,
      Path.parts_descend]
    exact List.append_left_lt (List.cons_lt_cons_iff.mpr (Or.inl before))

end

end ShellSurvey
