import ShellSurvey.Disk.Lookup

namespace ShellSurvey

/-- Names that lead nowhere, on a path. -/
def Insignificant (name : String) : Prop := name = "" ∨ name = "."

instance (name : String) : Decidable (Insignificant name) :=
  inferInstanceAs (Decidable (name = "" ∨ name = "."))

/-- The names of a path with some of those taken away that lead nowhere. -/
inductive Thinned : List String → List String → Prop where
  | nil : Thinned [] []
  | keep {name : String} {names fewer : List String} :
      Thinned names fewer → Thinned (name :: names) (name :: fewer)
  | drop {name : String} {names fewer : List String} :
      Insignificant name → Thinned names fewer → Thinned (name :: names) fewer

theorem Thinned.append_left (first : List String) {names fewer : List String}
    (thinned : Thinned names fewer) : Thinned (first ++ names) (first ++ fewer) := by
  induction first with
  | nil => exact thinned
  | cons name first ih => exact ih.keep

theorem Thinned.filter (names : List String) :
    Thinned names (names.filter fun name => name ≠ "" ∧ name ≠ ".") := by
  induction names with
  | nil => exact .nil
  | cons name names ih =>
    by_cases significant : name ≠ "" ∧ name ≠ "."
    · rw [List.filter_cons_of_pos (by simpa using significant)]
      exact ih.keep
    · rw [List.filter_cons_of_neg (by simpa using significant)]
      refine ih.drop ?_
      by_cases empty : name = ""
      · exact Or.inl empty
      · exact Or.inr (Decidable.not_not.mp fun dot => significant ⟨empty, dot⟩)

theorem Thinned.cons_significant {name : String} {names fewer : List String}
    (thinned : Thinned (name :: names) fewer) (significant : ¬ Insignificant name) :
    ∃ rest, fewer = name :: rest ∧ Thinned names rest := by
  cases thinned with
  | keep rest => exact ⟨_, rfl, rest⟩
  | drop insignificant rest => exact absurd insignificant significant

theorem locateOutside_directory {names : List String} {spot : Spot}
    (found : locateOutside names = .ok spot) : spot.node = .directory [] := by
  unfold locateOutside at found
  split at found
  · cases found; rfl
  · cases found

theorem locate_thinned {listing : Listing} {follow : Bool} {links : Nat} {here names : List String}
    {spot : Spot} {content : Bytes} {mode : Nat}
    (found : locate listing follow links here names = .ok spot)
    (file : spot.node = .file content mode) {fewer : List String} (thinned : Thinned names fewer) :
    locate listing true links here fewer = .ok spot := by
  fun_induction locate listing follow links here names generalizing fewer with
  | case1 => cases found; cases file
  | case2 links here name rest blank ih =>
    cases thinned with
    | keep thinned => rw [locate, if_pos blank]; exact ih found thinned
    | drop _ thinned => exact ih found thinned
  | case3 links rest blank => rw [locateOutside_directory found] at file; cases file
  | case4 links here rest inside blank ih =>
    obtain ⟨fewer, rfl, later⟩ := thinned.cons_significant blank
    rw [locate, if_neg blank, if_pos rfl, if_neg inside]
    exact ih found later
  | case5 => cases found
  | case6 => cases found
  | case7 links here name rest blank up short entries known ih =>
    obtain ⟨fewer, rfl, later⟩ := thinned.cons_significant blank
    rw [locate, if_neg blank, if_neg up, if_neg short, known]
    exact ih found later
  | case8 => cases found; cases file
  | case9 => cases found
  | case10 => rw [locateOutside_directory found] at file; cases file
  | case11 here name rest blank up short target known notLast links relative ih =>
    obtain ⟨fewer, rfl, later⟩ := thinned.cons_significant blank
    simp only [locate, if_neg blank, if_neg up, if_neg short, known]
    simp only [Bool.true_eq_false, and_false, if_false]
    rw [if_neg relative]
    exact ih found (later.append_left _)
  | case12 links here name blank up short node noDirectory noLink known =>
    obtain ⟨fewer, rfl, later⟩ := thinned.cons_significant blank
    cases later
    cases found
    cases (show node = .file content mode from file)
    rw [locate, if_neg blank, if_neg up, if_neg short, known]
    rfl
  | case13 => cases found

theorem utf8ByteSize_le_of_sublist {cs ds : List Char} (fewer : cs.Sublist ds) :
    (String.ofList cs).utf8ByteSize ≤ (String.ofList ds).utf8ByteSize := by
  have cons (c : Char) (cs : List Char) :
      (String.ofList (c :: cs)).utf8ByteSize = c.utf8Size + (String.ofList cs).utf8ByteSize := by
    rw [← List.singleton_append, String.ofList_append, String.utf8ByteSize_append]
    simp
  induction fewer with
  | slnil => exact Nat.le_refl _
  | cons c _ ih => rw [cons]; omega
  | cons_cons c _ ih => rw [cons, cons]; omega

theorem isAbsolute_ofText {path : String} (relative : isAbsolute path = false) :
    (Path.ofText path).slashes = 0 := by
  have noSlash : path.toList.takeWhile (· = '/') = [] := by
    cases cs : path.toList with
    | nil => rfl
    | cons c rest =>
      have : c ≠ '/' := by simpa [isAbsolute, cs] using relative
      simp [this]
  simp only [Path.ofText, noSlash, List.length_nil]

theorem toList_parts_sublist (path : String) :
    ((Path.ofText path).parts.map String.toList).Sublist (splitAt '/' path.toList) := by
  have pieces : (pathNames path).map String.toList = splitAt '/' path.toList := by
    simp [pathNames, Function.comp_def]
  rw [← pieces]
  exact List.filter_sublist.map _

theorem toList_text_of_relative {path : String} (relative : isAbsolute path = false)
    (nonempty : (Path.ofText path).parts ≠ []) :
    (Path.ofText path).text.toList = joinWith ['/'] ((Path.ofText path).parts.map String.toList) := by
  have noSlash := isAbsolute_ofText relative
  rw [Path.text, if_neg fun empty => nonempty empty.2, noSlash, joinTexts]
  simp

theorem toList_text_sublist {path : String} (relative : isAbsolute path = false)
    (nonempty : (Path.ofText path).parts ≠ []) :
    (Path.ofText path).text.toList.Sublist path.toList := by
  have joined := joinWith_sublist ['/'] (toList_parts_sublist path)
  rwa [joinWith_splitAt, ← toList_text_of_relative relative nonempty] at joined

/-- The names of a relative path in normal form are its parts. -/
theorem pathNames_text {path : String} (relative : isAbsolute path = false)
    (nonempty : (Path.ofText path).parts ≠ []) :
    pathNames (Path.ofText path).text = (Path.ofText path).parts := by
  have free : ∀ piece ∈ (Path.ofText path).parts.map String.toList, '/' ∉ piece :=
    fun piece member => not_mem_of_mem_splitAt ((toList_parts_sublist path).subset member)
  have pieces : (Path.ofText path).parts.map String.toList ≠ [] := by simpa using nonempty
  rw [pathNames, toList_text_of_relative relative nonempty, splitAt_joinWith pieces free]
  simp [Function.comp_def]

theorem nil_not_mem_parts (path : String) : "" ∉ (Path.ofText path).parts := by
  simp [Path.ofText]

/-- What a path names is found by following its names, or is some directory outside the tree. -/
theorem Disk.lookup_cases {disk : Disk} {follow : Bool} {path : String} {node : Node}
    (found : disk.lookup follow path = .ok node) :
    holdsNul path = false ∧ path.utf8ByteSize < pathLimit ∧
      (isAbsolute path = true ∧ node = .directory [] ∨
        isAbsolute path = false ∧ ∃ names,
          locate disk.entries follow linkLimit [] (pathNames path) = .ok ⟨names, node⟩) := by
  unfold lookup at found
  split at found
  · cases found
  next noNul =>
  split at found
  case h_2 => cases found
  case h_1 spot atSpot =>
    cases found
    unfold Disk.spot at atSpot
    split at atSpot
    · cases atSpot
    split at atSpot
    · cases atSpot
    next short =>
    refine ⟨by simpa using noNul, by omega, ?_⟩
    split at atSpot
    · next absolute => exact Or.inl ⟨absolute, locateOutside_directory atSpot⟩
    · next relative => exact Or.inr ⟨by simpa using relative, spot.names, atSpot⟩

/-- A path that names a file can be followed name by name. -/
theorem Disk.lookup_file {disk : Disk} {path : String} {content : Bytes} {mode : Nat}
    (found : disk.lookup false path = .ok (.file content mode)) :
    holdsNul path = false ∧ path.utf8ByteSize < pathLimit ∧ isAbsolute path = false ∧
      ∃ spot, locate disk.entries false linkLimit [] (pathNames path) = .ok spot ∧
        spot.node = .file content mode := by
  obtain ⟨noNul, short, ⟨_, outside⟩ | ⟨relative, names, located⟩⟩ := Disk.lookup_cases found
  · cases outside
  · exact ⟨noNul, short, relative, _, located, rfl⟩

/-- A name alone leads to an entry of the current directory. -/
theorem Disk.lookup_name {disk : Disk} {follow : Bool} {name : String} {content : Bytes} {mode : Nat}
    (listed : disk.entries.lookup name = some (.file content mode))
    (alone : pathNames name = [name]) (noNul : holdsNul name = false)
    (relative : isAbsolute name = false) (short : name.utf8ByteSize ≤ nameLimit)
    (significant : ¬ Insignificant name) (notUp : name ≠ "..") :
    disk.lookup follow name = .ok (.file content mode) := by
  have top : disk.entries.below [] = disk.entries := rfl
  have located : locate disk.entries follow linkLimit [] [name] =
      .ok ⟨[name], .file content mode⟩ := by
    have named : ¬ (name = "" ∨ name = ".") := significant
    rw [locate, if_neg named, if_neg notUp, if_neg (Nat.not_lt.mpr short), top, listed]
    rfl
  have nonempty : name ≠ "" := fun empty => significant (Or.inl empty)
  have shortPath : ¬ pathLimit ≤ name.utf8ByteSize := by
    unfold pathLimit
    unfold nameLimit at short
    omega
  rw [lookup, noNul, if_neg Bool.false_ne_true, Disk.spot, if_neg nonempty, if_neg shortPath,
    relative, if_neg Bool.false_ne_true, alone, located]

/-- Where the normal form of a path leads, if the path names a file on some disk. -/
theorem Disk.lookup_normalForm {disk : Disk} {path : String} {content : Bytes} {mode : Nat}
    (found : disk.lookup false path = .ok (.file content mode)) (other : Disk) :
    other.lookup true (Path.ofText path).text =
      ((locate other.entries true linkLimit [] (Path.ofText path).parts).map Spot.node).mapError
        fun errno => .failed (.system errno (Path.ofText path).text) := by
  obtain ⟨noNul, short, relative, spot, located, file⟩ := Disk.lookup_file found
  have nonempty : (Path.ofText path).parts ≠ [] := by
    intro empty
    have thinned := locate_thinned located file (Thinned.filter (pathNames path))
    rw [show (pathNames path).filter _ = [] from empty, locate] at thinned
    cases thinned
    cases file
  have names := pathNames_text relative nonempty
  have fewer := toList_text_sublist relative nonempty
  have noEmptyName := nil_not_mem_parts path
  have normalNoNul : holdsNul (Path.ofText path).text = false := by
    simp only [holdsNul, List.contains_eq_mem, decide_eq_false_iff_not] at noNul ⊢
    exact fun nul => noNul (fewer.subset nul)
  have normalNonempty : (Path.ofText path).text ≠ "" := by
    intro empty
    rw [← names, empty] at noEmptyName
    exact noEmptyName (by decide)
  have normalShort : ¬ pathLimit ≤ (Path.ofText path).text.utf8ByteSize := by
    have bytes := utf8ByteSize_le_of_sublist fewer
    rw [String.ofList_toList, String.ofList_toList] at bytes
    omega
  -- A leading slash would stand for an empty first name.
  have normalRelative : isAbsolute (Path.ofText path).text = false := by
    cases leading : isAbsolute (Path.ofText path).text with
    | false => rfl
    | true =>
      rw [← names, pathNames] at noEmptyName
      cases cs : (Path.ofText path).text.toList with
      | nil => simp [isAbsolute, cs] at leading
      | cons c rest =>
        have slash : c = '/' := by simpa [isAbsolute, cs] using leading
        rw [cs, splitAt_cons, if_pos slash] at noEmptyName
        exact absurd (by simp) noEmptyName
  rw [lookup, normalNoNul, if_neg Bool.false_ne_true, Disk.spot, if_neg normalNonempty,
    if_neg normalShort, normalRelative, if_neg Bool.false_ne_true, names]
  cases locate other.entries true linkLimit [] (Path.ofText path).parts <;> rfl

/-- The file that a path names is read under the normal form of the path. -/
theorem Disk.content_normalForm {disk : Disk} {path : String} {content : Bytes} {mode : Nat}
    (found : disk.lookup false path = .ok (.file content mode)) :
    disk.content (Path.ofText path).text = .ok content := by
  obtain ⟨_, _, _, spot, located, file⟩ := Disk.lookup_file found
  have thinned : locate disk.entries true linkLimit [] (Path.ofText path).parts = .ok spot :=
    locate_thinned located file (Thinned.filter (pathNames path))
  have there : disk.lookup true (Path.ofText path).text = .ok (.file content mode) := by
    rw [Disk.lookup_normalForm found, thinned]
    exact congrArg Except.ok file
  rw [Disk.content, there]

end ShellSurvey
