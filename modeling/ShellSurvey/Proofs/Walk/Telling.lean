import ShellSurvey.Proofs.Disk.Removal
import ShellSurvey.Proofs.Walk.Names

namespace ShellSurvey

/-- No name in a path text is longer than names can be. -/
def NamesFit (text : String) : Prop :=
  ∀ name ∈ pathNames text, name.utf8ByteSize ≤ nameLimit

instance (text : String) : Decidable (NamesFit text) :=
  inferInstanceAs (Decidable (∀ name ∈ pathNames text, name.utf8ByteSize ≤ nameLimit))

/-- No link in a tree leads along a name that is too long. -/
def LinksFit (entries : Listing) : Prop :=
  ∀ names target, entries.at? names = some (.link target) → NamesFit target

theorem locateOutside_error {names : List String} {errno : Errno}
    (failed : locateOutside names = .error errno) :
    errno = .notFound ∨ errno = .nameTooLong ∧ ∃ name ∈ names, nameLimit < name.utf8ByteSize := by
  unfold locateOutside at failed
  split at failed
  · cases failed
  · next name first =>
    cases failed
    split
    · next long => exact Or.inr ⟨rfl, name, List.mem_of_find?_eq_some first, long⟩
    · exact Or.inl rfl

/-- A name to follow in a tree, or one in a link of the tree, is too long. -/
def SomeNameTooLong (listing : Listing) (names : List String) : Prop :=
  (∃ name ∈ names, nameLimit < name.utf8ByteSize) ∨ ¬ LinksFit listing

theorem SomeNameTooLong.later {listing : Listing} {names : List String} (name : String)
    (long : SomeNameTooLong listing names) : SomeNameTooLong listing (name :: names) :=
  long.imp_left fun ⟨other, member, tooLong⟩ => ⟨other, List.mem_cons_of_mem name member, tooLong⟩

/-- What is too long among the names that a link and the rest of a path give is in one of the two. -/
theorem SomeNameTooLong.behindLink {listing : Listing} {here rest : List String}
    {name target : String} (known : (listing.below here).lookup name = some (.link target))
    (long : SomeNameTooLong listing (pathNames target ++ rest)) :
    SomeNameTooLong listing (name :: rest) := by
  rcases long with ⟨other, member, tooLong⟩ | unfit
  · rcases List.mem_append.mp member with inTarget | inRest
    · refine Or.inr fun fit => ?_
      rw [Listing.lookup_below] at known
      have short := fit _ _ known other inTarget
      omega
    · exact Or.inl ⟨other, List.mem_cons_of_mem _ inRest, tooLong⟩
  · exact Or.inr unfit

/-- Where names cannot be followed, no directory is at their end, unless a name is too long. -/
theorem locate_error {listing : Listing} {follow : Bool} {links : Nat} {here names : List String}
    {errno : Errno} (failed : locate listing follow links here names = .error errno) :
    errno.meansNoDirectory = true ∨ errno = .nameTooLong ∧ SomeNameTooLong listing names := by
  have outside {names : List String} (failed : locateOutside names = .error errno) :
      errno.meansNoDirectory = true ∨ errno = .nameTooLong ∧ SomeNameTooLong listing names := by
    rcases locateOutside_error failed with rfl | ⟨same, long⟩
    · exact Or.inl rfl
    · exact Or.inr ⟨same, Or.inl long⟩
  fun_induction locate listing follow links here names with
  | case1 => cases failed
  | case2 _ _ name _ _ ih =>
    exact (ih failed).imp_right (And.imp_right (.later name))
  | case3 => exact (outside failed).imp_right (And.imp_right (.later ".."))
  | case4 _ _ _ _ _ ih =>
    exact (ih failed).imp_right (And.imp_right (.later ".."))
  | case5 _ _ name _ _ _ long =>
    cases failed
    exact Or.inr ⟨rfl, Or.inl ⟨name, List.mem_cons_self, long⟩⟩
  | case6 => cases failed; exact Or.inl rfl
  | case7 _ _ name _ _ _ _ _ _ ih =>
    exact (ih failed).imp_right (And.imp_right (.later name))
  | case8 => cases failed
  | case9 => cases failed; exact Or.inl rfl
  | case10 _ _ _ _ _ _ _ known =>
    exact (outside failed).imp_right (And.imp_right (.behindLink known))
  | case11 _ _ _ _ _ _ _ known _ _ _ ih =>
    exact (ih failed).imp_right (And.imp_right (.behindLink known))
  | case12 => cases failed
  | case13 => cases failed; exact Or.inl rfl

theorem Disk.spot_error {disk : Disk} {follow : Bool} {path : String} {errno : Errno}
    (failed : disk.spot follow path = .error errno) :
    errno.meansNoDirectory = true ∨
      errno = .nameTooLong ∧
        (pathLimit ≤ path.utf8ByteSize ∨ SomeNameTooLong disk.entries (pathNames path)) := by
  unfold spot at failed
  split at failed
  · cases failed; exact Or.inl rfl
  split at failed
  · next long => cases failed; exact Or.inr ⟨rfl, Or.inl long⟩
  split at failed
  · rcases locateOutside_error failed with rfl | ⟨same, long⟩
    · exact Or.inl rfl
    · exact Or.inr ⟨same, Or.inr (Or.inl long)⟩
  · exact (locate_error failed).imp_right (And.imp_right Or.inr)

theorem Disk.lookup_error {disk : Disk} {follow : Bool} {path : String} {error : FileError}
    (failed : disk.lookup follow path = .error (.failed error)) :
    ∃ errno, disk.spot follow path = .error errno ∧ error = .system errno path := by
  unfold lookup at failed
  split at failed
  · cases failed
  split at failed
  · cases failed
  · next errno noSpot => cases failed; exact ⟨errno, noSpot, rfl⟩

/-- What a path leads to can be told by the disk alone. -/
def Disk.CanTell (disk : Disk) (path : Path) : Prop :=
  ∃ answer, disk.leadsToDirectory path.text = .ok answer

/-- In a world it can be told unless the request fails. -/
theorem World.canTell_iff {world : World} {path : Path} :
    world.CanTell path ↔ world.faults .kind path.text = none ∧ world.disk.CanTell path := by
  unfold CanTell leadsToDirectory Disk.CanTell
  cases world.faults .kind path.text <;> simp

/-- What a path leads to can be told by a disk unless something about it is too long. -/
theorem Disk.canTell_iff {disk : Disk} {path : Path} :
    disk.CanTell path ↔
      disk.lookup true path.text ≠ .error (.failed (.system .nameTooLong path.text)) := by
  unfold CanTell leadsToDirectory
  cases found : disk.lookup true path.text with
  | ok node => cases node <;> simp
  | error refusal =>
    cases refusal with
    | nulInPath => simp
    | failed error =>
      obtain ⟨errno, failed, rfl⟩ := Disk.lookup_error found
      rcases Disk.spot_error failed with harmless | ⟨rfl, _⟩
      · have different : errno ≠ .nameTooLong := by rintro rfl; cases harmless
        simp [FileError.errno?, harmless, different]
      · simp [FileError.errno?, Errno.meansNoDirectory]

section

variable {world : World} {root : Path}

/-- A world in which no request for a kind fails can tell what its disk can. -/
theorem World.leadsToDirectory_calm (calm : world.faults .kind root.text = none) :
    world.leadsToDirectory root.text = world.disk.leadsToDirectory root.text := by
  rw [leadsToDirectory, calm]

theorem World.leadsToDirectory_untold (calm : world.faults .kind root.text = none)
    (untold : ¬ world.disk.CanTell root) :
    world.leadsToDirectory root.text = .error (.system .nameTooLong root.text) := by
  rw [Disk.canTell_iff, ne_eq, Classical.not_not] at untold
  rw [leadsToDirectory_calm calm, Disk.leadsToDirectory, untold]
  rfl

variable {error : FileError} (untold : world.leadsToDirectory root.text = .error error)
  (exclusion : Exclusion)
include untold

theorem walkLeaf_untold (below : Path) : walkLeaf world exclusion root below = ⟨[], some error⟩ := by
  rw [walkLeaf, untold]

/-- Where it cannot be told what the root leads to, a walk breaks off at once. -/
theorem walk_untold : walk world exclusion root = ⟨[], some error⟩ := by
  unfold walk
  split
  · next node _ =>
    cases node with
    | directory entries => rw [walkNode, untold]
    | file content mode | pipe mode | link target =>
      rw [walkNode]
      exact walkLeaf_untold untold exclusion _
  · exact walkLeaf_untold untold exclusion _

end

/-- A path text that fits: neither it nor one of its names is too long. -/
def PathFits (text : String) : Prop := text.utf8ByteSize < pathLimit ∧ NamesFit text

instance (text : String) : Decidable (PathFits text) := inferInstanceAs (Decidable (_ ∧ _))

theorem Disk.canTell_of_fits {disk : Disk} (linksFit : LinksFit disk.entries) {path : Path}
    (fits : PathFits path.text) : disk.CanTell path := by
  obtain ⟨short, namesFit⟩ := fits
  rw [canTell_iff]
  intro tooLong
  obtain ⟨errno, failed, same⟩ := Disk.lookup_error tooLong
  cases same
  rcases Disk.spot_error failed with harmless | ⟨_, long | ⟨name, member, long⟩ | unfit⟩
  · cases harmless
  · omega
  · exact absurd (namesFit name member) (Nat.not_le.mpr long)
  · exact unfit linksFit

/-- What the targets of links are asked. -/
def Node.TargetFits : Node → Prop
  | .link target => NamesFit target
  | _ => True

instance (node : Node) : Decidable node.TargetFits :=
  match node with
  | .link target => inferInstanceAs (Decidable (NamesFit target))
  | .file _ _ | .pipe _ | .directory _ => inferInstanceAs (Decidable True)

/-- No request for the kind of an entry fails. -/
def World.TellsKinds (world : World) : Prop := ∀ path, world.faults .kind path = none

/-- It can be told of everything in a tree what it leads to, if no request for a kind fails, and no path
in the tree and no name in a link is too long. -/
theorem World.tellsTree_of_fits {world : World} {root : Path} (calm : world.TellsKinds)
    (linksFit : ∀ chain ∈ chainsOf world.disk.entries, chain.2.TargetFits)
    (rootFits : PathFits root.text)
    (treeFits : ∀ entries, world.disk.directoryAt? root = some entries →
      ∀ chain ∈ chainsOf entries, PathFits (root.descend chain.1).text) :
    world.TellsTree root := by
  have links : LinksFit world.disk.entries := by
    intro names target there
    cases names with
    | nil => cases there
    | cons name more =>
      rw [Listing.at?_cons, Option.bind_eq_some_iff] at there
      obtain ⟨node, known, there⟩ := there
      exact linksFit _ (mem_chainsOf known (Node.mem_chains there))
  have told {path : Path} (fits : PathFits path.text) : world.CanTell path :=
    canTell_iff.mpr ⟨calm path.text, Disk.canTell_of_fits links fits⟩
  refine ⟨told rootFits, fun entries directory names node there => told ?_⟩
  cases names with
  | nil => simpa using rootFits
  | cons name more =>
    rw [Listing.at?_cons, Option.bind_eq_some_iff] at there
    obtain ⟨node, known, there⟩ := there
    exact treeFits entries directory _ (mem_chainsOf known (Node.mem_chains there))

/-- What can be told on a disk can be told when entries are gone. -/
theorem Disk.CanTell.of_within {later earlier : Disk} (within : later.Within earlier) {path : Path}
    (told : earlier.CanTell path) : later.CanTell path := by
  rw [canTell_iff] at told ⊢
  intro tooLong
  obtain ⟨errno, failed, same⟩ := Disk.lookup_error tooLong
  cases same
  have narrows := Disk.spot_narrows within true path.text
  rw [failed] at narrows
  have before : earlier.spot true path.text = .error .nameTooLong := narrows
  refine told ?_
  unfold lookup at tooLong ⊢
  split at tooLong
  · cases tooLong
  · next noNul => rw [if_neg noNul, before]

theorem Disk.directoryAt?_of_within {later earlier : Disk} (within : later.Within earlier)
    {path : Path} {entries : Listing} (directory : later.directoryAt? path = some entries) :
    ∃ more, earlier.directoryAt? path = some more ∧
      (Node.directory entries).Within (.directory more) := by
  rw [directoryAt?_eq_some_iff] at directory
  obtain ⟨other, found, inner⟩ := Disk.lookup_of_within within directory
  obtain ⟨more, rfl⟩ := inner.like.directory
  exact ⟨more, directoryAt?_eq_some_iff.mpr found, inner⟩

theorem World.CanTell.of_within {world : World} {later : Disk} (within : later.Within world.disk)
    {path : Path} (told : world.CanTell path) : { world with disk := later }.CanTell path := by
  obtain ⟨calm, told⟩ := canTell_iff.mp told
  exact canTell_iff.mpr ⟨calm, told.of_within within⟩

theorem World.TellsTree.of_within {world : World} {later : Disk} (within : later.Within world.disk)
    {root : Path} (told : world.TellsTree root) : { world with disk := later }.TellsTree root where
  atRoot := told.atRoot.of_within within
  within entries directory names node there := by
    obtain ⟨more, before, inner⟩ := Disk.directoryAt?_of_within within directory
    rw [← Node.at?_directory] at there
    obtain ⟨other, otherThere, _⟩ := inner names node there
    rw [Node.at?_directory] at otherThere
    exact (told.within more before names other otherThere).of_within within

/-- A name that is too long cannot be followed. -/
theorem locate_long {listing : Listing} {follow : Bool} {links : Nat} {here rest : List String}
    {name : String} (proper : ProperName name) (notUp : name ≠ "..")
    (long : nameLimit < name.utf8ByteSize) :
    locate listing follow links here (name :: rest) = .error .nameTooLong := by
  have named : ¬ (name = "" ∨ name = ".") := not_or.mpr ⟨proper.1, proper.2.1⟩
  rw [locate, if_neg named, if_neg notUp, if_pos long]

section

variable {disk : Disk} {name : String} (proper : ProperName name) (free : NulFree name)
include proper free

/-- A name alone leads nowhere that can be told if a name that is too long is met on the way. -/
theorem Disk.not_canTell_of_locate
    (located : locate disk.entries true linkLimit [] [name] = .error .nameTooLong) :
    ¬ disk.CanTell (.ofText name) := by
  have spot : disk.spot true name = .error .nameTooLong := by
    rw [spot, if_neg proper.1]
    split
    · rfl
    · rw [proper.relative, if_neg Bool.false_ne_true, proper.pathNames, located]
  rw [canTell_iff, proper.path.2]
  intro told
  refine told ?_
  rw [lookup, free, if_neg Bool.false_ne_true, spot]

variable (notUp : name ≠ "..")
include notUp

theorem Disk.not_canTell_of_long_name (long : nameLimit < name.utf8ByteSize) :
    ¬ disk.CanTell (.ofText name) :=
  not_canTell_of_locate proper free (locate_long proper notUp long)

/-- A link to a name that is too long leads nowhere that can be told. -/
theorem Disk.not_canTell_of_long_link {target : String}
    (listed : disk.entries.lookup name = some (.link target)) (targetProper : ProperName target)
    (targetNotUp : target ≠ "..") (long : nameLimit < target.utf8ByteSize) :
    ¬ disk.CanTell (.ofText name) := by
  refine not_canTell_of_locate proper free ?_
  have named : ¬ (name = "" ∨ name = ".") := not_or.mpr ⟨proper.1, proper.2.1⟩
  have top : disk.entries.below [] = disk.entries := rfl
  rw [linkLimit, locate, if_neg named, if_neg notUp]
  split
  · rfl
  · rw [top, listed]
    simp only [targetProper.relative, Bool.false_eq_true, if_false,
      targetProper.pathNames, List.append_nil]
    exact locate_long targetProper targetNotUp long

end

/-- A name that is longer than names can be. -/
def overlong : String := .ofList (List.replicate (nameLimit + 1) 'a')

theorem length_overlong : overlong.length = nameLimit + 1 := by
  rw [overlong, String.length_ofList, List.length_replicate]

theorem utf8ByteSize_replicate (c : Char) (count : Nat) :
    (String.ofList (List.replicate count c)).utf8ByteSize = count * c.utf8Size := by
  induction count with
  | zero => rw [Nat.zero_mul]; rfl
  | succ count ih =>
    rw [List.replicate_succ', String.ofList_append, String.utf8ByteSize_append, ih, Nat.succ_mul]
    simp

theorem overlong_ne {name : String} (short : name.length ≤ nameLimit) : overlong ≠ name := by
  intro same
  rw [← same, length_overlong] at short
  omega

theorem not_mem_overlong {c : Char} (other : c ≠ 'a') : c ∉ overlong.toList := by
  rw [overlong, String.toList_ofList]
  exact fun inside => other (List.eq_of_mem_replicate inside)

theorem properName_overlong : ProperName overlong :=
  ⟨overlong_ne (by decide), overlong_ne (by decide), not_mem_overlong (by decide)⟩

theorem nameLimit_lt_overlong : nameLimit < overlong.utf8ByteSize := by
  have one : 'a'.utf8Size = 1 := by decide
  rw [overlong, utf8ByteSize_replicate, one]
  omega

end ShellSurvey
