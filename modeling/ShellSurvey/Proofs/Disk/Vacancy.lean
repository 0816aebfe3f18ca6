import ShellSurvey.Proofs.Disk.Removal

namespace ShellSurvey

theorem lookup_alterEntry_other {name other : String} (different : other ≠ name)
    (change : Option Node → Option Node) (listing : Listing) :
    List.lookup other (alterEntry name change listing) = List.lookup other listing := by
  have unseen (found : Option Node) (rest : Listing) :
      List.lookup other (found.toList.map (name, ·) ++ rest) = List.lookup other rest := by
    cases found with
    | none => rfl
    | some node =>
      have apart : (other == name) = false := beq_eq_false_iff_ne.mpr different
      simp [List.lookup_cons, apart]
  induction listing with
  | nil => simpa [alterEntry] using unseen (change none) []
  | cons head rest ih =>
    obtain ⟨known, node⟩ := head
    rw [alterEntry]
    split
    · next same =>
      have apart : (other == known) = false := beq_eq_false_iff_ne.mpr (same ▸ different)
      rw [unseen, List.lookup_cons, apart]
    · split
      · exact unseen _ _
      · rw [List.lookup_cons, List.lookup_cons, ih]

theorem lookup_alterEntry_same {listing : Listing} (ordered : ListingOrdered listing)
    (name : String) (change : Option Node → Option Node) :
    List.lookup name (alterEntry name change listing) = change (List.lookup name listing) := by
  have placed (found : Option Node) {rest : Listing} (absent : List.lookup name rest = none) :
      List.lookup name (found.toList.map (name, ·) ++ rest) = found := by
    cases found with
    | none => exact absent
    | some node => simp
  have absent {rest : Listing} (later : ∀ entry ∈ rest, name < entry.1) :
      List.lookup name rest = none := by
    refine List.lookup_eq_none_iff.mpr fun entry member => bne_iff_ne.mpr ?_
    rintro rfl
    exact String.lt_irrefl _ (later entry member)
  induction listing with
  | nil => simpa [alterEntry] using placed (change none) (List.lookup_nil)
  | cons head rest ih =>
    obtain ⟨known, node⟩ := head
    obtain ⟨later, _, inOrder⟩ := ordered
    rw [alterEntry]
    split
    · next same =>
      subst same
      rw [placed _ (absent later), List.lookup_cons_self]
    · next different =>
      have apart : (name == known) = false := beq_eq_false_iff_ne.mpr (Ne.symm different)
      split
      · next before =>
        have unlisted : List.lookup name ((known, node) :: rest) = none := by
          refine absent fun entry member => ?_
          rcases List.mem_cons.mp member with rfl | afterwards
          · exact before
          · exact String.lt_trans before (later entry afterwards)
        rw [placed _ unlisted, unlisted]
      · rw [List.lookup_cons, List.lookup_cons, apart, ih inOrder]

/-- Nothing is left where an entry was taken away. -/
theorem Listing.at?_alterAt_none {listing : Listing} (ordered : ListingOrdered listing)
    {names : List String} (nonempty : names ≠ []) :
    (alterAt (fun _ => none) names listing).at? names = none := by
  induction names generalizing listing with
  | nil => exact absurd rfl nonempty
  | cons name more ih =>
    cases more with
    | nil => rw [alterAt, at?_cons, lookup_alterEntry_same ordered, Option.bind_none]
    | cons next more =>
      rw [alterAt, at?_cons, lookup_alterEntry_same ordered]
      cases known : List.lookup name listing with
      | none => rfl
      | some node =>
        cases node with
        | directory inner =>
          have inOrder : ListingOrdered inner :=
            ordered.of_mem (ordered.lookup_eq_some_iff.mp known)
          rw [Option.bind_some, Node.at?_directory]
          exact ih inOrder (List.cons_ne_nil next more)
        | file content mode | pipe mode | link target => rfl

/-- Everything else is where it was. -/
theorem Listing.at?_alterAt_other {listing : Listing} (ordered : ListingOrdered listing)
    {chain names : List String} {leaf node : Node} (there : listing.at? chain = some leaf)
    (noDirectory : leaf.isDirectory = false) (elsewhere : names ≠ chain)
    (found : listing.at? names = some node) :
    ∃ other, (alterAt (fun _ => none) chain listing).at? names = some other ∧ node.Like other := by
  induction chain generalizing listing names with
  | nil =>
    cases there
    cases noDirectory
  | cons first deeper ih =>
    cases names with
    | nil =>
      cases found
      exact ⟨_, rfl, Or.inr ⟨rfl, rfl⟩⟩
    | cons name more =>
      rw [at?_cons, Option.bind_eq_some_iff] at there found
      obtain ⟨above, aboveKnown, there⟩ := there
      obtain ⟨next, known, found⟩ := found
      by_cases same : name = first
      · subst same
        cases aboveKnown.symm.trans known
        cases deeper with
        | nil =>
          -- A leaf ends every chain of names that leads to it.
          rw [Node.at?_nil] at there
          cases there
          cases more with
          | nil => exact absurd rfl elsewhere
          | cons next more =>
            cases leaf with
            | directory entries => cases noDirectory
            | file content mode | pipe mode | link target => cases found
        | cons next deeper =>
          cases above with
          | directory inner =>
            have inOrder : ListingOrdered inner :=
              ordered.of_mem (ordered.lookup_eq_some_iff.mp known)
            rw [alterAt, at?_cons, lookup_alterEntry_same ordered, known]
            rw [Node.at?_directory] at there found
            rw [Option.bind_some, Node.at?_directory]
            exact ih inOrder there (fun deep => elsewhere (congrArg (name :: ·) deep)) found
          | file content mode | pipe mode | link target => cases there
      · have kept : List.lookup name (alterAt (fun _ => none) (first :: deeper) listing) =
            List.lookup name listing := by
          cases deeper with
          | nil => rw [alterAt, lookup_alterEntry_other same]
          | cons next deeper => rw [alterAt, lookup_alterEntry_other same]
        rw [at?_cons, kept, known]
        exact ⟨node, found, Or.inl rfl⟩

/-- A file lies where the names that lead to it say. -/
theorem locate_file {listing : Listing} {follow : Bool} {links : Nat} {here names : List String}
    {spot : Spot} {content : Bytes} {mode : Nat}
    (found : locate listing follow links here names = .ok spot)
    (file : spot.node = .file content mode) :
    spot.names ≠ [] ∧ listing.at? spot.names = some (.file content mode) := by
  fun_induction locate listing follow links here names with
  | case1 => cases found; cases file
  | case2 _ _ _ _ _ ih => exact ih found
  | case3 => rw [locateOutside_directory found] at file; cases file
  | case4 _ _ _ _ _ ih => exact ih found
  | case5 => cases found
  | case6 => cases found
  | case7 _ _ _ _ _ _ _ _ _ ih => exact ih found
  | case8 => cases found; cases file
  | case9 => cases found
  | case10 => rw [locateOutside_directory found] at file; cases file
  | case11 _ _ _ _ _ _ _ _ _ _ _ ih => exact ih found
  | case12 _ here name _ _ _ _ _ _ known =>
    cases found
    refine ⟨List.append_ne_nil_of_right_ne_nil here (List.cons_ne_nil name []), ?_⟩
    rw [← listing.lookup_below, known]
    exact congrArg some file
  | case13 => cases found

/-- The names that led to a file lead to nothing once it is gone. -/
theorem locate_vacant {listing : Listing} (ordered : ListingOrdered listing) {follow : Bool}
    {links : Nat} {here names : List String} {spot : Spot} {content : Bytes} {mode : Nat}
    (found : locate listing follow links here names = .ok spot)
    (file : spot.node = .file content mode) {fewer : List String} (thinned : Thinned names fewer) :
    locate (alterAt (fun _ => none) spot.names listing) true links here fewer = .error .notFound := by
  obtain ⟨nonempty, there⟩ := locate_file found file
  have kept {here : List String} {name : String} {node : Node}
      (known : (listing.below here).lookup name = some node)
      (noFile : node ≠ .file content mode) :
      ∃ other, (Listing.below here (alterAt (fun _ => none) spot.names listing)).lookup name =
        some other ∧ node.Like other := by
    rw [Listing.lookup_below] at known ⊢
    refine Listing.at?_alterAt_other ordered there rfl ?_ known
    intro same
    rw [same, there] at known
    exact noFile (Option.some.inj known).symm
  fun_induction locate listing follow links here names generalizing fewer with
  | case1 => cases found; cases file
  | case2 links here name rest blank ih =>
    cases thinned with
    | keep thinned => rw [locate, if_pos blank]; exact ih found thinned
    | drop _ thinned => exact ih found thinned
  | case3 links rest blank => rw [locateOutside_directory found] at file; cases file
  | case4 links here rest inside blank ih =>
    obtain ⟨fewer, rfl, later⟩ := thinned.cons_significant blank
    rw [locate, if_neg blank, if_pos rfl, if_neg inside]
    exact ih found later
  | case5 => cases found
  | case6 => cases found
  | case7 links here name rest blank up short entries known ih =>
    obtain ⟨fewer, rfl, later⟩ := thinned.cons_significant blank
    obtain ⟨other, otherKnown, alike⟩ := kept known (by rintro ⟨⟩)
    obtain ⟨inner, rfl⟩ := alike.directory
    rw [locate, if_neg blank, if_neg up, if_neg short, otherKnown]
    exact ih found later
  | case8 => cases found; cases file
  | case9 => cases found
  | case10 => rw [locateOutside_directory found] at file; cases file
  | case11 here name rest blank up short target known notLast links relative ih =>
    obtain ⟨fewer, rfl, later⟩ := thinned.cons_significant blank
    obtain ⟨other, otherKnown, alike⟩ := kept known (by rintro ⟨⟩)
    obtain rfl := alike.eq rfl
    simp only [locate, if_neg blank, if_neg up, if_neg short, otherKnown]
    simp only [Bool.true_eq_false, and_false, if_false]
    rw [if_neg relative]
    exact ih found (later.append_left _)
  | case12 links here name blank up short node noDirectory noLink known =>
    obtain ⟨fewer, rfl, later⟩ := thinned.cons_significant blank
    cases found
    have gone := Listing.at?_alterAt_none ordered nonempty
    rw [← Listing.lookup_below] at gone
    rw [locate, if_neg blank, if_neg up, if_neg short, gone]
  | case13 => cases found

/-- A file that was removed cannot be read any more under the normal form of its path. -/
theorem Disk.content_of_remove {disk : Disk} {path : String} {content : Bytes} {mode : Nat}
    (found : disk.lookup false path = .ok (.file content mode)) :
    ∃ rest, disk.remove path = .ok rest ∧ rest.content (Path.ofText path).text =
      .error (.failed (.system .notFound (Path.ofText path).text)) := by
  obtain ⟨noNul, short, relative, spot, located, file⟩ := Disk.lookup_file found
  have nonempty : path ≠ "" := by
    rintro rfl
    have refused : disk.lookup false "" = .error (.failed (.system .notFound "")) := rfl
    cases refused.symm.trans found
  have atSpot : disk.spot false path = .ok spot := by
    rw [Disk.spot, if_neg nonempty, if_neg (Nat.not_le.mpr short), relative,
      if_neg Bool.false_ne_true, located]
  have removed : disk.remove path =
      .ok (disk.alter spot.names (fun _ => none) keepsOrder_none) := by
    rw [Disk.remove, noNul, if_neg Bool.false_ne_true, atSpot]
  have vacant : locate (disk.alter spot.names (fun _ => none) keepsOrder_none).entries true linkLimit
      [] (Path.ofText path).parts = .error .notFound :=
    locate_vacant disk.ordered located file (Thinned.filter (pathNames path))
  refine ⟨_, removed, ?_⟩
  rw [Disk.content, Disk.lookup_normalForm found, vacant]
  rfl

end ShellSurvey
