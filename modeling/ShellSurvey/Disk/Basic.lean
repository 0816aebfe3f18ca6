import ShellSurvey.Text.Utf8

namespace ShellSurvey

/-- An entry of a directory. Permissions of links and modes of directories are not kept: nothing
asks for them. -/
inductive Node where
  | file (content : Bytes) (mode : Nat)
  | pipe (mode : Nat)
  | link (target : String)
  | directory (entries : List (String × Node))
  deriving Inhabited

abbrev Listing := List (String × Node)

mutual

/-- Every directory from this node down lists each name once and in order. -/
def Node.Ordered : Node → Prop
  | .directory entries => ListingOrdered entries
  | .file _ _ => True
  | .pipe _ => True
  | .link _ => True

def ListingOrdered : List (String × Node) → Prop
  | [] => True
  | (name, node) :: rest =>
    (∀ entry ∈ rest, name < entry.1) ∧ node.Ordered ∧ ListingOrdered rest

end

/-- Changes, adds or takes away the entry of a name. -/
def alterEntry (name : String) (change : Option Node → Option Node) : Listing → Listing
  | [] => (change none).toList.map (name, ·)
  | (known, node) :: rest =>
    if known = name then (change (some node)).toList.map (name, ·) ++ rest
    else if name < known then (change none).toList.map (name, ·) ++ (known, node) :: rest
    else (known, node) :: alterEntry name change rest

/-- Changes the entry at the end of a chain of names; directories on the way are not made. -/
def alterAt (change : Option Node → Option Node) : List String → Listing → Listing
  | [], listing => listing
  | [name], listing => alterEntry name change listing
  | name :: next :: more, listing =>
    alterEntry name
      (fun
        | some (.directory inner) => some (.directory (alterAt change (next :: more) inner))
        | other => other)
      listing

/-- A change that keeps directories in order. -/
def KeepsOrder (change : Option Node → Option Node) : Prop :=
  ∀ old, (∀ node ∈ old, node.Ordered) → ∀ node ∈ change old, node.Ordered

theorem mem_alterEntry {name : String} {change : Option Node → Option Node} {listing : Listing}
    {entry : String × Node} (member : entry ∈ alterEntry name change listing) :
    entry.1 = name ∨ entry ∈ listing := by
  induction listing with
  | nil =>
    simp only [alterEntry, List.mem_map] at member
    obtain ⟨node, _, rfl⟩ := member
    exact Or.inl rfl
  | cons head rest ih =>
    obtain ⟨known, node⟩ := head
    simp only [alterEntry] at member
    split at member
    · simp only [List.mem_append, List.mem_map] at member
      rcases member with ⟨_, _, rfl⟩ | old
      · exact Or.inl rfl
      · exact Or.inr (List.mem_cons_of_mem _ old)
    · split at member
      · simp only [List.mem_append, List.mem_map] at member
        rcases member with ⟨_, _, rfl⟩ | old
        · exact Or.inl rfl
        · exact Or.inr old
      · rcases List.mem_cons.mp member with rfl | later
        · exact Or.inr List.mem_cons_self
        · exact (ih later).imp_right (List.mem_cons_of_mem _)

theorem listingOrdered_append_cons {name : String} {found : Option Node} {rest : Listing}
    (ordered : ListingOrdered rest) (fresh : ∀ node ∈ found, node.Ordered)
    (below : ∀ entry ∈ rest, name < entry.1) :
    ListingOrdered (found.toList.map (name, ·) ++ rest) := by
  cases found with
  | none => simpa using ordered
  | some node => exact ⟨below, fresh node rfl, ordered⟩

theorem ListingOrdered.alterEntry {name : String} {change : Option Node → Option Node}
    {listing : Listing} (ordered : ListingOrdered listing) (keeps : KeepsOrder change) :
    ListingOrdered (alterEntry name change listing) := by
  induction listing with
  | nil =>
    have below : ∀ entry ∈ ([] : Listing), name < entry.1 := by simp
    have := listingOrdered_append_cons ordered (keeps none (by simp)) below
    simpa [ShellSurvey.alterEntry] using this
  | cons head rest ih =>
    obtain ⟨known, node⟩ := head
    obtain ⟨below, inner, tail⟩ := ordered
    simp only [ShellSurvey.alterEntry]
    split
    · next same =>
      subst same
      exact listingOrdered_append_cons tail (keeps (some node) (by simpa using inner)) below
    · next different =>
      split
      · next before =>
        refine listingOrdered_append_cons ⟨below, inner, tail⟩ (keeps none (by simp)) ?_
        intro entry member
        rcases List.mem_cons.mp member with rfl | later
        · exact before
        · exact String.lt_trans before (below entry later)
      · next notBefore =>
        refine ⟨?_, inner, ih tail⟩
        intro entry member
        rcases mem_alterEntry member with same | later
        · rw [same]
          rcases Std.lt_trichotomy known name with less | same | greater
          · exact less
          · exact absurd same different
          · exact absurd greater notBefore
        · exact below entry later

theorem ListingOrdered.alterAt {change : Option Node → Option Node} {names : List String}
    {listing : Listing} (ordered : ListingOrdered listing) (keeps : KeepsOrder change) :
    ListingOrdered (alterAt change names listing) := by
  induction names generalizing listing with
  | nil => exact ordered
  | cons name more ih =>
    cases more with
    | nil => exact ordered.alterEntry keeps
    | cons next more =>
      refine ordered.alterEntry ?_
      intro old inOrder node member
      cases old with
      | none => simp at member
      | some old =>
        cases old with
        | directory inner =>
          simp only [Option.mem_def, Option.some.injEq] at member
          subst member
          exact ih (inOrder _ rfl)
        | file content mode => exact inOrder _ member
        | pipe mode => exact inOrder _ member
        | link target => exact inOrder _ member

/-- A tree of files below the current directory. -/
structure Disk where
  entries : Listing
  ordered : ListingOrdered entries

def Disk.empty : Disk := ⟨[], trivial⟩

def Disk.alter (disk : Disk) (names : List String) (change : Option Node → Option Node)
    (keeps : KeepsOrder change) : Disk :=
  ⟨alterAt change names disk.entries, disk.ordered.alterAt keeps⟩

/-- What a chain of names leads to, without following links. -/
def Listing.at? : List String → Listing → Option Node
  | [], listing => some (.directory listing)
  | name :: more, listing =>
    match List.lookup name listing, more with
    | some node, [] => some node
    | some (.directory inner), more => Listing.at? more inner
    | _, _ => none

/-- The entries of the directory that a chain of names leads to. -/
def Listing.below (names : List String) (listing : Listing) : Listing :=
  match Listing.at? names listing with
  | some (.directory inner) => inner
  | _ => []

end ShellSurvey
