import ShellSurvey.Proofs.Walk.Tour

namespace ShellSurvey

/-- A name that an entry of a directory can have. -/
def ProperName (name : String) : Prop := name ≠ "" ∧ name ≠ "." ∧ '/' ∉ name.toList

instance (name : String) : Decidable (ProperName name) := inferInstanceAs (Decidable (_ ∧ _))

/-- A path as it is read from a text. -/
def Path.Normal (path : Path) : Prop := path.slashes ≤ 2 ∧ ∀ name ∈ path.parts, ProperName name

theorem Path.normal_ofText (text : String) : (Path.ofText text).Normal := by
  constructor
  · simp only [ofText]
    split <;> omega
  · intro name member
    simp only [ofText, List.mem_filter, pathNames, List.mem_map, decide_eq_true_eq] at member
    obtain ⟨⟨piece, split, rfl⟩, nonempty, noDot⟩ := member
    exact ⟨nonempty, noDot, by simpa using not_mem_of_mem_splitAt split⟩

theorem Path.Normal.descend {path : Path} (normal : path.Normal) {names : List String}
    (proper : ∀ name ∈ names, ProperName name) : (path.descend names).Normal :=
  ⟨normal.1, List.forall_mem_append.mpr ⟨normal.2, proper⟩⟩

theorem splitAt_replicate {α : Type} [DecidableEq α] (separator : α) (count : Nat) (xs : List α) :
    splitAt separator (List.replicate count separator ++ xs) =
      List.replicate count [] ++ splitAt separator xs := by
  induction count with
  | zero => rfl
  | succ count ih =>
    rw [List.replicate_succ, List.cons_append, splitAt_cons, if_pos rfl, ih, List.replicate_succ,
      List.cons_append]

/-- A proper name begins, but not with a slash. -/
theorem ProperName.begins {name : String} (proper : ProperName name) :
    ∃ c rest, name.toList = c :: rest ∧ c ≠ '/' := by
  obtain ⟨nonempty, _, noSlash⟩ := proper
  cases letters : name.toList with
  | nil => exact absurd (by simpa using letters) nonempty
  | cons c rest =>
    rw [letters] at noSlash
    exact ⟨c, rest, rfl, fun same => noSlash (same ▸ List.mem_cons_self)⟩

section

variable (slashes : Nat) (first : String) (more : List String)

theorem Path.toList_text : (Path.mk slashes (first :: more)).text.toList =
    List.replicate slashes '/' ++ joinWith ['/'] ((first :: more).map String.toList) := by
  simp [text, joinTexts]

variable {first} in
/-- The slashes that the text of a path begins with are those in front of its names. -/
theorem Path.leading_text (proper : ProperName first) :
    (Path.mk slashes (first :: more)).text.toList.takeWhile (· = '/') =
      List.replicate slashes '/' := by
  obtain ⟨c, rest, letters, other⟩ := proper.begins
  have names : (joinWith ['/'] ((first :: more).map String.toList)).takeWhile (· = '/') = [] := by
    cases more <;> simp [joinWith, letters, other]
  rw [toList_text, List.takeWhile_append_of_pos (by simp), names, List.append_nil]

variable {first more} in
theorem Path.pathNames_text (proper : ∀ name ∈ first :: more, ProperName name) :
    pathNames (Path.mk slashes (first :: more)).text =
      List.replicate slashes "" ++ first :: more := by
  have pieces : (first :: more).map String.toList ≠ [] := by simp
  have free : ∀ piece ∈ (first :: more).map String.toList, '/' ∉ piece := by
    intro piece member
    obtain ⟨name, known, rfl⟩ := List.mem_map.mp member
    exact (proper name known).2.2
  rw [pathNames, toList_text, splitAt_replicate, splitAt_joinWith pieces free]
  simp [Function.comp_def]

end

/-- A path in normal form is read back from its text. -/
theorem Path.Normal.ofText_text {path : Path} (normal : path.Normal) : Path.ofText path.text = path := by
  obtain ⟨slashes, parts⟩ := path
  obtain ⟨few, proper⟩ := normal
  have count : slashes = 0 ∨ slashes = 1 ∨ slashes = 2 := by
    have few : slashes ≤ 2 := few
    omega
  cases parts with
  | nil => rcases count with rfl | rfl | rfl <;> decide
  | cons first more =>
    have kept : (first :: more).filter (fun name => decide (name ≠ "" ∧ name ≠ ".")) =
        first :: more :=
      List.filter_eq_self.mpr fun name member => by
        simpa using ⟨(proper name member).1, (proper name member).2.1⟩
    have dropped : (List.replicate slashes "").filter
        (fun name => decide (name ≠ "" ∧ name ≠ ".")) = [] :=
      List.filter_eq_nil_iff.mpr fun name member => by
        simp [List.eq_of_mem_replicate member]
    have properFirst : ProperName first := proper first List.mem_cons_self
    unfold ofText
    rw [pathNames_text slashes proper, leading_text slashes more properFirst, List.length_replicate,
      List.filter_append, kept, dropped, List.nil_append]
    rcases count with rfl | rfl | rfl <;> simp

/-- A proper name alone is a path in normal form. -/
theorem ProperName.path {name : String} (proper : ProperName name) :
    Path.ofText name = ⟨0, [name]⟩ ∧ (Path.ofText name).text = name := by
  have normal : Path.Normal ⟨0, [name]⟩ := ⟨Nat.zero_le 2, by simpa using proper⟩
  have text : Path.text ⟨0, [name]⟩ = name := by simp [Path.text, joinTexts, joinWith]
  have path := normal.ofText_text
  rw [text] at path
  exact ⟨path, by rw [path, text]⟩

theorem ProperName.pathNames {name : String} (proper : ProperName name) :
    ShellSurvey.pathNames name = [name] := by
  simp [ShellSurvey.pathNames, splitAt_of_not_mem proper.2.2]

theorem ProperName.relative {name : String} (proper : ProperName name) :
    isAbsolute name = false := by
  obtain ⟨c, rest, letters, other⟩ := proper.begins
  simp [isAbsolute, letters, other]

theorem Path.Normal.text_injective {path other : Path} (normal : path.Normal)
    (otherNormal : other.Normal) (same : path.text = other.text) : path = other := by
  rw [← normal.ofText_text, ← otherNormal.ofText_text, same]

/-- Every name in a tree has a property. -/
def Node.Names (property : String → Prop) (node : Node) : Prop :=
  ∀ names found, node.at? names = some found → ∀ name ∈ names, property name

def Disk.Names (property : String → Prop) (disk : Disk) : Prop :=
  (Node.directory disk.entries).Names property

section

variable {property : String → Prop}

theorem Node.names_of_chains {node : Node}
    (holds : ∀ chain ∈ node.chains, ∀ name ∈ chain.1, property name) : node.Names property :=
  fun _ _ there => holds _ (Node.mem_chains there)

theorem Node.Names.at? {node found : Node} (named : node.Names property) {names : List String}
    (there : node.at? names = some found) : found.Names property := by
  intro more inner below name member
  rw [← Node.at?_append there] at below
  exact named _ _ below name (List.mem_append_right _ member)

theorem Disk.Names.directoryAt? {disk : Disk} (named : disk.Names property) {path : Path}
    {entries : Listing} (directory : disk.directoryAt? path = some entries) :
    (Node.directory entries).Names property := by
  rcases Disk.lookup_within (Disk.directoryAt?_eq_some_iff.mp directory) with empty | ⟨chain, there⟩
  · rw [empty]
    intro names found there name member
    cases names with
    | nil => cases member
    | cons first more => cases there
  · rw [← Node.at?_directory] at there
    exact Node.Names.at? named there

/-- The names on a path that a walk comes upon are those of the root and some of the tree. -/
theorem names_of_mem_tour {world : World} {exclusion : Exclusion} {root : Path}
    (named : world.disk.Names property) (above : ∀ name ∈ root.parts, property name)
    {visit : Visit} (member : visit ∈ tour world exclusion root) :
    visit.path.slashes = root.slashes ∧ ∀ name ∈ visit.path.parts, property name := by
  unfold tour at member
  cases directory : world.disk.directoryAt? root with
  | none =>
    rw [directory, List.mem_singleton] at member
    rw [member]
    exact ⟨rfl, above⟩
  | some entries =>
    rw [directory] at member
    have inOrder : (Node.directory entries).Ordered := Disk.directoryAt?_ordered directory
    obtain ⟨names, found, there, _, visited⟩ := (mem_tourNode inOrder).mp member
    rw [Node.path_of_visit? visited]
    refine ⟨rfl, fun name known => ?_⟩
    rcases List.mem_append.mp known with inRoot | below
    · exact above name inRoot
    · exact named.directoryAt? directory names found there name below

end

/-- All that a walk comes upon is in normal form. -/
theorem normal_of_mem_tour {world : World} {exclusion : Exclusion} {root : Path}
    (named : world.disk.Names ProperName) (normal : root.Normal) {visit : Visit}
    (member : visit ∈ tour world exclusion root) : visit.path.Normal := by
  obtain ⟨sameSlashes, proper⟩ := names_of_mem_tour named normal.2 member
  exact ⟨sameSlashes ▸ normal.1, proper⟩

/-- A text without a NUL. -/
def NulFree (text : String) : Prop := holdsNul text = false

instance (text : String) : Decidable (NulFree text) := inferInstanceAs (Decidable (_ = _))

theorem nulFree_iff {text : String} : NulFree text ↔ '\x00' ∉ text.toList := by
  simp [NulFree, holdsNul]

theorem Disk.nulFree_of_lookup {disk : Disk} {follow : Bool} {path : String} {node : Node}
    (found : disk.lookup follow path = .ok node) : NulFree path :=
  (Disk.lookup_cases found).1

/-- The dot names the tree as a whole. -/
theorem Disk.lookup_here (disk : Disk) (follow : Bool) :
    disk.lookup follow Path.here.text = .ok (.directory disk.entries) := by
  have names : pathNames Path.here.text = ["."] := by decide
  have nonempty : Path.here.text ≠ "" := by decide
  have short : ¬ pathLimit ≤ Path.here.text.utf8ByteSize := by decide
  have relative : isAbsolute Path.here.text = false := by decide
  have free : NulFree Path.here.text := by decide
  have located : locate disk.entries follow linkLimit [] ["."] =
      .ok ⟨[], .directory disk.entries⟩ := by
    rw [locate, if_pos (Or.inr rfl), locate]
    rfl
  rw [lookup, free, if_neg Bool.false_ne_true, spot, if_neg nonempty, if_neg short, relative,
    if_neg Bool.false_ne_true, names, located]

theorem Disk.directoryAt?_here (disk : Disk) : disk.directoryAt? .here = some disk.entries :=
  Disk.directoryAt?_eq_some_iff.mpr (disk.lookup_here false)

/-- A name alone leads to a directory in the current one. -/
theorem Disk.directoryAt?_name {disk : Disk} {name : String} {inner : Listing}
    (proper : ProperName name) (notUp : name ≠ "..") (free : NulFree name)
    (short : name.utf8ByteSize ≤ nameLimit)
    (listed : disk.entries.lookup name = some (.directory inner)) :
    disk.directoryAt? (.ofText name) = some inner := by
  have located : locate disk.entries false linkLimit [] [name] = .ok ⟨[name], .directory inner⟩ := by
    have named : ¬ (name = "" ∨ name = ".") := not_or.mpr ⟨proper.1, proper.2.1⟩
    have top : disk.entries.below [] = disk.entries := rfl
    have inside : disk.entries.below [name] = inner := by
      simp [Listing.below, Listing.at?, listed]
    rw [locate, if_neg named, if_neg notUp, if_neg (Nat.not_lt.mpr short), top, listed]
    simp only [List.nil_append]
    rw [locate, inside]
  have shortPath : ¬ pathLimit ≤ name.utf8ByteSize := by
    unfold pathLimit
    unfold nameLimit at short
    omega
  rw [directoryAt?, proper.path.2, lookup, free, if_neg Bool.false_ne_true, spot, if_neg proper.1,
    if_neg shortPath, proper.relative, if_neg Bool.false_ne_true, proper.pathNames, located]

theorem mem_joinWith {α : Type} {separator : List α} {pieces : List (List α)} {x : α}
    (member : x ∈ joinWith separator pieces) : x ∈ separator ∨ ∃ piece ∈ pieces, x ∈ piece := by
  induction pieces with
  | nil => cases member
  | cons piece rest ih =>
    cases rest with
    | nil => exact Or.inr ⟨piece, List.mem_cons_self, member⟩
    | cons next rest =>
      rw [joinWith, List.mem_append, List.mem_append] at member
      · rcases member with (here | between) | later
        · exact Or.inr ⟨piece, List.mem_cons_self, here⟩
        · exact Or.inl between
        · rcases ih later with between | ⟨other, known, inside⟩
          · exact Or.inl between
          · exact Or.inr ⟨other, List.mem_cons_of_mem _ known, inside⟩
      · exact List.cons_ne_nil _ _

/-- A path without a NUL in its names has none in its text. -/
theorem Path.nulFree_text {path : Path} (names : ∀ name ∈ path.parts, NulFree name) :
    NulFree path.text := by
  rw [nulFree_iff, text]
  split
  · decide
  · rw [String.toList_ofList, List.mem_append, joinTexts, String.toList_ofList]
    rintro (slash | inside)
    · exact absurd (List.eq_of_mem_replicate slash) (by decide)
    · rcases mem_joinWith inside with slash | ⟨piece, known, inside⟩
      · exact absurd slash (by decide)
      · obtain ⟨name, member, rfl⟩ := List.mem_map.mp known
        exact nulFree_iff.mp (names name member) inside

theorem mem_of_mem_splitAt {α : Type} [DecidableEq α] {separator x : α} {xs piece : List α}
    (member : piece ∈ splitAt separator xs) (inside : x ∈ piece) : x ∈ xs := by
  rw [← joinWith_splitAt separator xs]
  have alone : [piece].Sublist (splitAt separator xs) := List.singleton_sublist.mpr member
  exact (joinWith_sublist [separator] alone).subset inside

theorem Path.nulFree_ofText {text : String} (free : NulFree text) :
    ∀ name ∈ (Path.ofText text).parts, NulFree name := by
  intro name member
  simp only [ofText, List.mem_filter, pathNames, List.mem_map] at member
  obtain ⟨⟨piece, split, rfl⟩, _⟩ := member
  rw [nulFree_iff, String.toList_ofList]
  exact fun inside => nulFree_iff.mp free (mem_of_mem_splitAt split inside)

end ShellSurvey
