import ShellSurvey.Proofs.Walk.Coverage

namespace ShellSurvey

/-- A name that a directory can list: not that of the directory itself or of the one above it. -/
def EntryName (name : String) : Prop := ProperName name ∧ name ≠ ".."

instance (name : String) : Decidable (EntryName name) := inferInstanceAs (Decidable (_ ∧ _))

/-- Whatever names follow, it is from the directory at some chain that they are followed. -/
def LeadsInto (listing : Listing) (follow : Bool) (there : List String)
    (onward : List String → Except Errno Spot) : Prop :=
  ∃ fewer, ∀ more, onward more = locate listing follow fewer there more

theorem LeadsInto.before {listing : Listing} {follow : Bool} {there : List String}
    {onward later : List String → Except Errno Spot} (same : ∀ more, onward more = later more)
    (leads : LeadsInto listing follow there later) : LeadsInto listing follow there onward := by
  obtain ⟨fewer, goesOn⟩ := leads
  exact ⟨fewer, fun more => (same more).trans (goesOn more)⟩

/-- Names that lead to a directory can be followed further from there. Of a directory outside the tree
nothing is known to follow. -/
theorem locate_append {listing : Listing} {follow : Bool} {links : Nat}
    {here there names : List String} {entries : Listing}
    (found : locate listing follow links here names = .ok ⟨there, .directory entries⟩) :
    entries = [] ∨ listing.below there = entries ∧
      LeadsInto listing follow there fun more => locate listing follow links here (names ++ more) := by
  have outside {names : List String}
      (found : locateOutside names = .ok ⟨there, .directory entries⟩) : entries = [] :=
    Node.directory.inj (locateOutside_directory found)
  fun_induction locate listing follow links here names with
  | case1 links here =>
    cases found
    exact Or.inr ⟨rfl, links, fun more => rfl⟩
  | case2 links here name rest blank ih =>
    refine (ih found).imp_right (And.imp_right (.before fun more => ?_))
    rw [List.cons_append, locate, if_pos blank]
  | case3 => exact Or.inl (outside found)
  | case4 links here rest inside blank ih =>
    refine (ih found).imp_right (And.imp_right (.before fun more => ?_))
    rw [List.cons_append, locate, if_neg blank, if_pos rfl, if_neg inside]
  | case5 => cases found
  | case6 => cases found
  | case7 links here name rest blank up short entries known ih =>
    refine (ih found).imp_right (And.imp_right (.before fun more => ?_))
    rw [List.cons_append, locate, if_neg blank, if_neg up, if_neg short, known]
  | case8 => cases found
  | case9 => cases found
  | case10 => exact Or.inl (outside found)
  | case11 here name rest blank up short target known notLast links relative ih =>
    -- A link that is followed at the end of some names is followed in front of more.
    refine (ih found).imp_right (And.imp_right (.before fun more => ?_))
    have notLater : ¬ (rest ++ more = [] ∧ follow = false) :=
      fun last => notLast ⟨(List.append_eq_nil_iff.mp last.1).1, last.2⟩
    rw [List.cons_append, locate, if_neg blank, if_neg up, if_neg short]
    simp only [known, if_neg notLater, if_neg relative, List.append_assoc]
  | case12 links here name blank up short node noDirectory =>
    cases found
    exact absurd rfl (noDirectory entries)
  | case13 => cases found

theorem Listing.below_of_at? {listing inner : Listing} {names : List String}
    (there : listing.at? names = some (.directory inner)) : listing.below names = inner := by
  rw [below, there]

/-- Names that a directory lists, one inside the other, lead to what lies there. -/
theorem locate_at? {listing : Listing} {links : Nat} {here names : List String} {found : Node}
    {spot : Spot} (named : ∀ name ∈ names, EntryName name)
    (there : (listing.below here).at? names = some found) (leaf : found.isDirectory = false)
    (located : locate listing false links here names = .ok spot) : spot.node = found := by
  induction names generalizing here with
  | nil =>
    cases there
    cases leaf
  | cons name more ih =>
    obtain ⟨⟨proper, notUp⟩, later⟩ := List.forall_mem_cons.mp named
    have significant : ¬ (name = "" ∨ name = ".") := not_or.mpr ⟨proper.1, proper.2.1⟩
    rw [Listing.at?_cons, Option.bind_eq_some_iff] at there
    obtain ⟨node, known, there⟩ := there
    rw [locate, if_neg significant, if_neg notUp] at located
    split at located
    · cases located
    rw [known] at located
    cases node with
    | directory inner =>
      have inside : listing.below (here ++ [name]) = inner := by
        rw [Listing.lookup_below] at known
        exact Listing.below_of_at? known
      rw [Node.at?_directory, ← inside] at there
      exact ih later there located
    | file content mode | pipe mode | link target =>
      cases more with
      | cons next more => cases there
      | nil =>
        cases there
        cases located
        rfl

theorem isAbsolute_eq (text : String) :
    isAbsolute text = !(text.toList.takeWhile (· = '/')).isEmpty := by
  unfold isAbsolute
  cases letters : text.toList with
  | nil => rfl
  | cons c rest => by_cases slash : c = '/' <;> simp [slash]

/-- The text of a path is absolute if there are slashes in front of its names. -/
theorem Path.Normal.isAbsolute_text {path : Path} (normal : path.Normal) :
    isAbsolute path.text = decide (path.slashes ≠ 0) := by
  obtain ⟨slashes, parts⟩ := path
  cases parts with
  | nil => cases slashes <;> simp [isAbsolute, text, joinTexts, joinWith, List.replicate_succ]
  | cons first more =>
    have proper : ProperName first := normal.2 first List.mem_cons_self
    rw [isAbsolute_eq, leading_text slashes more proper]
    cases slashes <;> simp [List.replicate_succ]

/-- The names of what lies below a path are those of the path and those below. -/
theorem Path.Normal.locate_descend {root : Path} (normal : root.Normal)
    (relative : root.slashes = 0) {names : List String} (nonempty : names ≠ [])
    (proper : ∀ name ∈ names, ProperName name) (listing : Listing) (follow : Bool) (links : Nat) :
    locate listing follow links [] (pathNames (root.descend names).text) =
      locate listing follow links [] (pathNames root.text ++ names) := by
  obtain ⟨slashes, parts⟩ := root
  cases relative
  cases parts with
  | nil =>
    obtain ⟨first, more, rfl⟩ := List.exists_cons_of_ne_nil nonempty
    -- The path of the tree as a whole is written as a dot, which is passed over.
    have dot : pathNames (Path.mk 0 []).text = ["."] := by decide
    have text : pathNames (Path.mk 0 (first :: more)).text = first :: more := pathNames_text 0 proper
    rw [dot, List.singleton_append, locate, if_pos (Or.inr rfl)]
    exact congrArg _ text
  | cons first more =>
    have above : pathNames (Path.mk 0 (first :: more)).text = first :: more :=
      pathNames_text 0 normal.2
    have whole : pathNames (Path.mk 0 (first :: (more ++ names))).text = first :: (more ++ names) :=
      pathNames_text 0 (normal.descend proper).2
    rw [above]
    exact congrArg _ whole

/-- What lies at a chain of names below a directory is found under its path, if anything is. -/
theorem Disk.lookup_descend {disk : Disk} {root : Path} (normal : root.Normal) {entries : Listing}
    (directory : disk.directoryAt? root = some entries) {names : List String}
    (named : ∀ name ∈ names, EntryName name) {found node : Node}
    (there : entries.at? names = some found) (leaf : found.isDirectory = false)
    (reached : disk.lookup false (root.descend names).text = .ok node) : node = found := by
  have nonempty : names ≠ [] := by
    rintro rfl
    cases there
    cases leaf
  have listsSome : entries ≠ [] := by
    rintro rfl
    cases names with
    | nil => exact nonempty rfl
    | cons first more => cases there
  have atRoot := directoryAt?_eq_some_iff.mp directory
  have proper (name : String) (member : name ∈ names) : ProperName name := (named name member).1
  obtain ⟨_, _, ⟨_, outside⟩ | ⟨absolute, top, rootLocated⟩⟩ := Disk.lookup_cases atRoot
  · exact absurd (Node.directory.inj outside) listsSome
  have relative : root.slashes = 0 := by simpa [absolute] using normal.isAbsolute_text
  have below : isAbsolute (root.descend names).text = false := by
    rw [(normal.descend proper).isAbsolute_text, decide_eq_false_iff_not, Classical.not_not]
    exact relative
  obtain ⟨_, _, ⟨outside, _⟩ | ⟨_, spot, located⟩⟩ := Disk.lookup_cases reached
  · rw [below] at outside
    cases outside
  rw [normal.locate_descend relative nonempty proper] at located
  rcases locate_append rootLocated with empty | ⟨inside, fewer, goesOn⟩
  · exact absurd empty listsSome
  · exact locate_at? named (inside ▸ there) leaf ((goesOn names).symm.trans located)

/-- What a tour takes for an entry is no directory. -/
theorem lookup_of_mem_tour {world : World} {exclusion : Exclusion} {root path : Path}
    (named : world.disk.Names EntryName) (normal : root.Normal)
    (member : .entry path ∈ tour world exclusion root) {node : Node}
    (reached : world.disk.lookup false path.text = .ok node) : node.isDirectory = false := by
  unfold tour at member
  cases directory : world.disk.directoryAt? root with
  | none =>
    rw [directory, List.mem_singleton] at member
    cases member
    cases node with
    | directory entries =>
      rw [Disk.directoryAt?_eq_some_iff.mpr reached] at directory
      cases directory
    | file content mode | pipe mode | link target => rfl
  | some entries =>
    rw [directory] at member
    have inOrder : (Node.directory entries).Ordered := Disk.directoryAt?_ordered directory
    obtain ⟨names, found, there, _, visited⟩ := (mem_tourNode inOrder).mp member
    obtain ⟨leaf, _, rfl⟩ := Node.visit?_eq_entry_iff.mp visited
    have listed := named.directoryAt? directory names found there
    rw [Node.at?_directory] at there
    exact Disk.lookup_descend normal directory listed there leaf reached ▸ leaf

end ShellSurvey
