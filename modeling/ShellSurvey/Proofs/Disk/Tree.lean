import ShellSurvey.Proofs.Disk.NormalForm

namespace ShellSurvey

/-- Induction over trees: what holds of a directory may be shown from what holds of its entries. -/
@[elab_as_elim]
theorem Node.inductionOn {motive : Node → Prop} (node : Node)
    (file : ∀ content mode, motive (.file content mode)) (pipe : ∀ mode, motive (.pipe mode))
    (link : ∀ target, motive (.link target))
    (directory : ∀ entries : Listing, (∀ entry ∈ entries, motive entry.2) →
      motive (.directory entries)) : motive node := by
  refine @Node.rec motive (fun entries => ∀ entry ∈ entries, motive entry.2)
    (fun entry => motive entry.2) file pipe link directory ?nil ?cons (fun _ _ here => here) node
  case nil => exact List.forall_mem_nil _
  case cons =>
    intro head rest here later
    exact List.forall_mem_cons.mpr ⟨here, later⟩

def Node.isDirectory : Node → Bool
  | .directory _ => true
  | _ => false

/-- What a chain of names leads to from a node. -/
def Node.at? (names : List String) (node : Node) : Option Node :=
  match node, names with
  | node, [] => some node
  | .directory entries, names => Listing.at? names entries
  | _, _ => none

theorem Node.at?_nil (node : Node) : node.at? [] = some node := by
  cases node <;> rfl

theorem Node.at?_directory (names : List String) (entries : Listing) :
    Node.at? names (.directory entries) = Listing.at? names entries := by
  cases names <;> rfl

theorem Listing.at?_cons (name : String) (more : List String) (listing : Listing) :
    Listing.at? (name :: more) listing = (List.lookup name listing).bind (Node.at? more) := by
  unfold Listing.at?
  cases List.lookup name listing with
  | none => rfl
  | some node => cases node <;> cases more <;> rfl

theorem Node.at?_append {above below : List String} {node found : Node}
    (there : node.at? above = some found) : node.at? (above ++ below) = found.at? below := by
  induction above generalizing node with
  | nil =>
    rw [Node.at?_nil] at there
    cases there
    rfl
  | cons name more ih =>
    cases node with
    | directory entries =>
      rw [Node.at?_directory, Listing.at?_cons, Option.bind_eq_some_iff] at there
      obtain ⟨next, known, there⟩ := there
      rw [List.cons_append, Node.at?_directory, Listing.at?_cons, known, Option.bind_some, ih there]
    | file content mode | pipe mode | link target => cases there

mutual

/-- Everything in a tree, by the chains of names that lead there. -/
def Node.chains : Node → List (List String × Node)
  | .directory entries => ([], .directory entries) :: chainsOf entries
  | .file content mode => [([], .file content mode)]
  | .pipe mode => [([], .pipe mode)]
  | .link target => [([], .link target)]

def chainsOf : List (String × Node) → List (List String × Node)
  | [] => []
  | (name, node) :: rest => node.chains.map (fun chain => (name :: chain.1, chain.2)) ++ chainsOf rest

end

theorem mem_chainsOf {listing : Listing} {name : String} {more : List String} {node found : Node}
    (known : List.lookup name listing = some node) (member : (more, found) ∈ node.chains) :
    (name :: more, found) ∈ chainsOf listing := by
  induction listing with
  | nil => cases known
  | cons head rest ih =>
    rw [chainsOf, List.mem_append]
    rw [List.lookup_cons] at known
    split at known
    · next same =>
      cases known
      rw [eq_of_beq same]
      exact Or.inl (List.mem_map.mpr ⟨_, member, rfl⟩)
    · exact Or.inr (ih known)

theorem Node.mem_chains {names : List String} {node found : Node}
    (there : node.at? names = some found) : (names, found) ∈ node.chains := by
  induction names generalizing node with
  | nil =>
    rw [Node.at?_nil] at there
    cases there
    cases found <;> simp [Node.chains]
  | cons name more ih =>
    cases node with
    | directory entries =>
      rw [Node.at?_directory, Listing.at?_cons, Option.bind_eq_some_iff] at there
      obtain ⟨next, known, there⟩ := there
      rw [Node.chains]
      exact List.mem_cons_of_mem _ (mem_chainsOf known (ih there))
    | file content mode | pipe mode | link target => cases there

theorem ListingOrdered.lookup_eq_some_iff {listing : Listing} (ordered : ListingOrdered listing)
    {name : String} {node : Node} :
    List.lookup name listing = some node ↔ (name, node) ∈ listing := by
  induction listing with
  | nil => simp
  | cons head rest ih =>
    obtain ⟨known, there⟩ := head
    obtain ⟨before, _, later⟩ := ordered
    rw [List.lookup_cons, List.mem_cons]
    by_cases same : name = known
    · subst same
      have fresh : (name, node) ∉ rest := fun member =>
        absurd (before _ member) (String.lt_irrefl name)
      simp [fresh, eq_comm]
    · have different : (name == known) = false := beq_eq_false_iff_ne.mpr same
      rw [different, ih later]
      simp [same]

theorem ListingOrdered.of_mem {listing : Listing} (ordered : ListingOrdered listing)
    {entry : String × Node} (member : entry ∈ listing) : entry.2.Ordered := by
  induction listing with
  | nil => cases member
  | cons head rest ih =>
    rcases List.mem_cons.mp member with rfl | later
    · exact ordered.2.1
    · exact ih ordered.2.2 later

/-- The names of a listing in order are strictly increasing. -/
theorem ListingOrdered.pairwise {listing : Listing} (ordered : ListingOrdered listing) :
    listing.Pairwise fun first second => first.1 < second.1 := by
  induction listing with
  | nil => exact .nil
  | cons head rest ih => exact .cons ordered.1 (ih ordered.2.2)

/-- A listing around one of its entries: no other has the same name. -/
theorem ListingOrdered.split {listing : Listing} (ordered : ListingOrdered listing) {name : String}
    {node : Node} (known : List.lookup name listing = some node) :
    ∃ before after, listing = before ++ (name, node) :: after ∧
      ∀ entry ∈ before ++ after, entry ∈ listing ∧ entry.1 ≠ name := by
  obtain ⟨before, after, rfl⟩ := List.append_of_mem (ordered.lookup_eq_some_iff.mp known)
  have sorted := ordered.pairwise
  rw [List.pairwise_append, List.pairwise_cons] at sorted
  obtain ⟨_, ⟨afterwards, _⟩, earlier⟩ := sorted
  refine ⟨before, after, rfl, fun entry member => ?_⟩
  rcases List.mem_append.mp member with early | late
  · have less : entry.1 < name := earlier entry early _ List.mem_cons_self
    refine ⟨List.mem_append_left _ early, fun same => ?_⟩
    rw [same] at less
    exact String.lt_irrefl name less
  · have less : name < entry.1 := afterwards entry late
    refine ⟨List.mem_append_right _ (List.mem_cons_of_mem _ late), fun same => ?_⟩
    rw [same] at less
    exact String.lt_irrefl name less

theorem Node.Ordered.at? {names : List String} {node found : Node} (ordered : node.Ordered)
    (there : node.at? names = some found) : found.Ordered := by
  induction names generalizing node with
  | nil =>
    rw [Node.at?_nil] at there
    cases there
    exact ordered
  | cons name more ih =>
    cases node with
    | directory entries =>
      rw [Node.at?_directory, Listing.at?_cons, Option.bind_eq_some_iff] at there
      obtain ⟨next, known, there⟩ := there
      have inOrder : ListingOrdered entries := ordered
      exact ih (inOrder.of_mem (inOrder.lookup_eq_some_iff.mp known)) there
    | file content mode => cases there
    | pipe mode => cases there
    | link target => cases there

/-- What a directory at a chain of names lists is what lies at the chain with one more name. -/
theorem Listing.lookup_below (listing : Listing) (here : List String) (name : String) :
    (listing.below here).lookup name = listing.at? (here ++ [name]) := by
  have alone (inner : Listing) : inner.lookup name = inner.at? [name] := by
    rw [at?_cons]
    cases List.lookup name inner with
    | none => rfl
    | some node => rw [Option.bind_some, Node.at?_nil]
  induction here generalizing listing with
  | nil => exact alone listing
  | cons first more ih =>
    rw [List.cons_append, at?_cons, below, at?_cons]
    cases List.lookup first listing with
    | none => rfl
    | some next =>
      rw [Option.bind_some, Option.bind_some]
      cases next with
      | directory inner =>
        rw [Node.at?_directory, Node.at?_directory]
        exact ih inner
      | file content mode | pipe mode | link target => cases more <;> rfl

theorem Listing.below_within (listing : Listing) (names : List String) :
    listing.below names = [] ∨ listing.at? names = some (.directory (listing.below names)) := by
  unfold below
  split
  · next inner there => exact Or.inr there
  · exact Or.inl rfl

/-- What is found by following names lies in the tree, or nothing is known of it. -/
theorem locate_within {listing : Listing} {follow : Bool} {links : Nat} {here names : List String}
    {spot : Spot} (found : locate listing follow links here names = .ok spot) :
    spot.node = .directory [] ∨ ∃ chain, listing.at? chain = some spot.node := by
  have outside {names : List String} (found : locateOutside names = .ok spot) :
      spot.node = .directory [] ∨ ∃ chain, listing.at? chain = some spot.node :=
    Or.inl (locateOutside_directory found)
  fun_induction locate listing follow links here names with
  | case1 links here =>
    cases found
    rcases listing.below_within here with nothing | there
    · exact Or.inl (congrArg Node.directory nothing)
    · exact Or.inr ⟨here, there⟩
  | case2 _ _ _ _ _ ih => exact ih found
  | case3 => exact outside found
  | case4 _ _ _ _ _ ih => exact ih found
  | case5 => cases found
  | case6 => cases found
  | case7 _ _ _ _ _ _ _ _ _ ih => exact ih found
  | case8 _ here name _ _ _ _ _ known =>
    cases found
    exact Or.inr ⟨here ++ [name], (listing.lookup_below here name).symm.trans known⟩
  | case9 => cases found
  | case10 => exact outside found
  | case11 _ _ _ _ _ _ _ _ _ _ _ ih => exact ih found
  | case12 _ here name _ _ _ _ _ _ known =>
    cases found
    exact Or.inr ⟨here ++ [name], (listing.lookup_below here name).symm.trans known⟩
  | case13 => cases found

theorem Disk.lookup_within {disk : Disk} {follow : Bool} {path : String} {node : Node}
    (found : disk.lookup follow path = .ok node) :
    node = .directory [] ∨ ∃ chain, disk.entries.at? chain = some node := by
  obtain ⟨_, _, ⟨_, outside⟩ | ⟨_, names, located⟩⟩ := Disk.lookup_cases found
  · exact Or.inl outside
  · exact locate_within located

theorem Disk.holdsNul_of_lookup {disk : Disk} {follow : Bool} {path : String}
    (refused : disk.lookup follow path = .error .nulInPath) : holdsNul path = true := by
  unfold lookup at refused
  split at refused
  · next nul => exact nul
  · split at refused <;> cases refused

/-- Whatever a path names is in order. -/
theorem Disk.lookup_ordered {disk : Disk} {follow : Bool} {path : String} {node : Node}
    (found : disk.lookup follow path = .ok node) : node.Ordered := by
  have inOrder : (Node.directory disk.entries).Ordered := disk.ordered
  rcases Disk.lookup_within found with rfl | ⟨chain, there⟩
  · trivial
  · exact Node.Ordered.at? inOrder (Node.at?_directory chain disk.entries ▸ there)

end ShellSurvey
