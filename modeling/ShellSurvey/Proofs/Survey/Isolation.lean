import Mathlib.Data.List.Forall2
import ShellSurvey.Proofs.Survey.Observe
import ShellSurvey.Proofs.Walk.Coverage
import ShellSurvey.Proofs.Walk.Names

namespace ShellSurvey

/-- Two runs of visits that differ in one directory only. In the second it is shut, and a report on it
stands where the visits below it stood. -/
def ShutAt (directory : Path) (error : FileError) (whole shut : List Visit) : Prop :=
  ∃ before inside after, whole = before ++ inside ++ after ∧
    shut = before ++ .unlistable directory error :: after ∧
    (∀ visit ∈ inside, directory.parts <+: visit.path.parts ∧ directory.parts ≠ visit.path.parts) ∧
    ∀ visit ∈ before ++ after, ¬ directory.parts <+: visit.path.parts

/-- What is visited before and after, away from the directory, does not matter. -/
theorem ShutAt.between {directory : Path} {error : FileError} {whole shut pre post : List Visit}
    (within : ShutAt directory error whole shut)
    (apart : ∀ visit ∈ pre ++ post, ¬ directory.parts <+: visit.path.parts) :
    ShutAt directory error (pre ++ (whole ++ post)) (pre ++ (shut ++ post)) := by
  obtain ⟨before, inside, after, rfl, rfl, inBelow, notBelow⟩ := within
  obtain ⟨apartPre, apartPost⟩ := List.forall_mem_append.mp apart
  obtain ⟨apartBefore, apartAfter⟩ := List.forall_mem_append.mp notBelow
  refine ⟨pre ++ before, inside, after ++ post, by simp only [List.append_assoc],
    by simp only [List.append_assoc, List.cons_append], inBelow, ?_⟩
  simp only [List.forall_mem_append]
  exact ⟨⟨apartPre, apartBefore⟩, apartAfter, apartPost⟩

section

variable {listing other : String → Option FileError} {exclusion : Exclusion}

theorem tourEntries_append (path below : Path) (first second : Listing) :
    tourEntries listing exclusion path below (first ++ second) =
      tourEntries listing exclusion path below first ++
        tourEntries listing exclusion path below second := by
  simp only [tourEntries_eq_flatMap, List.flatMap_append]

theorem tourEntries_congr {entries : Listing} {path below : Path}
    (same : ∀ entry ∈ entries,
      tourNode listing exclusion (path.child entry.1) (below.child entry.1) entry.2 =
        tourNode other exclusion (path.child entry.1) (below.child entry.1) entry.2) :
    tourEntries listing exclusion path below entries =
      tourEntries other exclusion path below entries := by
  rw [tourEntries_eq_flatMap, tourEntries_eq_flatMap]
  exact List.flatMap_congr same

/-- Only the failures of directories that a tour gets to bear on it. -/
theorem tourNode_congr {node : Node} (ordered : node.Ordered) {path below : Path}
    (same : ∀ names inner, node.at? names = some (.directory inner) →
      Reaches listing exclusion path below names →
      ¬ exclusion.PassesOver (below.descend names) true →
      listing (path.descend names).text = other (path.descend names).text) :
    tourNode listing exclusion path below node = tourNode other exclusion path below node := by
  induction node using Node.inductionOn generalizing path below with
  | file content mode => simp only [tourNode]
  | pipe mode => simp only [tourNode]
  | link target => simp only [tourNode]
  | directory entries ih =>
    have inOrder : ListingOrdered entries := ordered
    simp only [tourNode]
    by_cases skipped : exclusion.PassesOver below true
    · rw [if_pos skipped, if_pos skipped]
    · have here : listing path.text = other path.text := by
        simpa using same [] entries (Node.at?_nil _) (reaches_nil path below) (by simpa using skipped)
      rw [if_neg skipped, if_neg skipped, ← here]
      cases listed : listing path.text with
      | some error => rfl
      | none =>
        have entered : Enters listing exclusion path below [] := enters_nil.mpr ⟨skipped, listed⟩
        refine tourEntries_congr fun entry member => ?_
        refine ih entry member (inOrder.of_mem member) fun names inner there reached kept => ?_
        have within : (Node.directory entries).at? (entry.1 :: names) = some (.directory inner) := by
          rw [Node.at?_directory, Listing.at?_cons, inOrder.lookup_eq_some_iff.mpr member]
          exact there
        simpa using same (entry.1 :: names) inner within (reaches_cons.mpr ⟨entered, reached⟩)
          (by simpa using kept)

/-- Below one entry of a directory nothing lies that lies below another. -/
theorem not_below_sibling {path : Path} {name sibling : String} {names more : List String}
    (different : sibling ≠ name) :
    ¬ (path.descend (name :: more)).parts <+: (path.descend (sibling :: names)).parts := by
  intro front
  rw [Path.parts_descend, Path.parts_descend, List.prefix_append_right_inj] at front
  exact different (List.cons_prefix_cons.mp front).1.symm

/-- A tour that comes to a shut directory instead of one that it goes into. -/
theorem tourNode_shut {node : Node} (ordered : node.Ordered) {path below : Path}
    {names : List String} {inner : Listing} {error : FileError}
    (there : node.at? names = some (.directory inner))
    (reached : Reaches listing exclusion path below names)
    (entered : Enters listing exclusion path below names)
    (shut : other (path.descend names).text = some error)
    (elsewhere : ∀ more found, node.at? more = some (.directory found) → more ≠ names →
      listing (path.descend more).text = other (path.descend more).text) :
    ShutAt (path.descend names) error (tourNode listing exclusion path below node)
      (tourNode other exclusion path below node) := by
  induction names generalizing node path below with
  | nil =>
    rw [Node.at?_nil] at there
    cases there
    have inOrder : ListingOrdered inner := ordered
    obtain ⟨kept, listed⟩ := enters_nil.mp entered
    have failed : other path.text = some error := by simpa using shut
    simp only [tourNode, if_neg kept, listed, failed, Path.descend_nil]
    refine ⟨[], _, [], by rw [List.nil_append, List.append_nil], rfl, ?_, List.forall_mem_nil _⟩
    intro visit member
    obtain ⟨entry, known, member⟩ := mem_tourEntries.mp member
    obtain ⟨names, found⟩ := path_of_mem_tourNode (inOrder.of_mem known) member
    rw [found, Path.descend_child, Path.parts_descend]
    exact ⟨List.prefix_append _ _, by simp⟩
  | cons name more ih =>
    cases node with
    | file content mode | pipe mode | link target => cases there
    | directory entries =>
      have inOrder : ListingOrdered entries := ordered
      rw [Node.at?_directory, Listing.at?_cons, Option.bind_eq_some_iff] at there
      obtain ⟨child, known, there⟩ := there
      obtain ⟨top, reached⟩ := reaches_cons.mp reached
      obtain ⟨kept, listed⟩ := enters_nil.mp top
      have still : other path.text = none := by
        rw [← listed]
        simpa using (elsewhere [] entries (Node.at?_nil _) (List.cons_ne_nil _ _).symm).symm
      -- Below the entries of this directory, too, all but the shut one are listed as before.
      have unchanged (entry : String × Node) (member : entry ∈ entries) (names : List String)
          (found : Listing) (there : entry.2.at? names = some (.directory found))
          (different : entry.1 :: names ≠ name :: more) :
          listing ((path.child entry.1).descend names).text =
            other ((path.child entry.1).descend names).text := by
        rw [Path.descend_child]
        refine elsewhere (entry.1 :: names) found ?_ different
        rw [Node.at?_directory, Listing.at?_cons, inOrder.lookup_eq_some_iff.mpr member]
        exact there
      have here : (name, child) ∈ entries := inOrder.lookup_eq_some_iff.mp known
      have within : ShutAt ((path.child name).descend more) error
          (tourNode listing exclusion (path.child name) (below.child name) child)
          (tourNode other exclusion (path.child name) (below.child name) child) := by
        have enteredBelow : Enters listing exclusion (path.child name) (below.child name) more :=
          ⟨by simpa using entered.kept, by simpa using entered.listed⟩
        refine ih (inOrder.of_mem here) there reached enteredBelow (by simpa using shut) ?_
        intro names found there different
        exact unchanged _ here names found there fun same => different (List.cons.inj same).2
      rw [Path.descend_child] at within
      obtain ⟨pre, post, split, apart⟩ := inOrder.split known
      have siblings (entry : String × Node) (member : entry ∈ pre ++ post) :
          tourNode listing exclusion (path.child entry.1) (below.child entry.1) entry.2 =
            tourNode other exclusion (path.child entry.1) (below.child entry.1) entry.2 := by
        obtain ⟨inEntries, different⟩ := apart entry member
        refine tourNode_congr (inOrder.of_mem inEntries) fun names found there _ _ => ?_
        exact unchanged entry inEntries names found there fun same => different (List.cons.inj same).1
      have early := tourEntries_congr fun entry member =>
        siblings entry (List.mem_append_left post member)
      have late := tourEntries_congr fun entry member =>
        siblings entry (List.mem_append_right pre member)
      simp only [tourNode, if_neg kept, listed, still, split, tourEntries_append, tourEntries]
      rw [← early, ← late]
      refine within.between fun visit member => ?_
      rw [← tourEntries_append] at member
      obtain ⟨entry, sibling, visited⟩ := mem_tourEntries.mp member
      obtain ⟨inEntries, different⟩ := apart entry sibling
      obtain ⟨names, found⟩ := path_of_mem_tourNode (inOrder.of_mem inEntries) visited
      rw [found, Path.descend_child]
      exact not_below_sibling different

end

/-- A walk goes into the directory at a path. -/
def GoesInto (world : World) (exclusion : Exclusion) (root path : Path) : Prop :=
  ∃ entries names, world.disk.directoryAt? root = some entries ∧ path = root.descend names ∧
    Opens world exclusion root entries names ∧ OpensAbove world exclusion root entries names

/-- What can be told does not depend on requests of other kinds. -/
theorem World.TellsTree.strike {world : World} {root : Path} (told : world.TellsTree root)
    {stage : Stage} (other : stage ≠ .kind) (asked : String) (error : FileError) :
    (world.strike stage asked error).TellsTree root := by
  have same (path : String) : (world.strike stage asked error).leadsToDirectory path =
      world.leadsToDirectory path := by
    have unstruck : (world.strike stage asked error).faults .kind path = world.faults .kind path :=
      if_neg fun both => other both.1.symm
    unfold leadsToDirectory
    rw [unstruck]
    rfl
  have tells {path : Path} (tells : world.CanTell path) :
      (world.strike stage asked error).CanTell path := by
    unfold CanTell at tells ⊢
    rwa [same]
  exact ⟨tells told.atRoot, fun entries directory names node there =>
    tells (told.within entries directory names node there)⟩

section

variable {world : World} {exclusion : Exclusion} {root : Path} {error : FileError}

/-- A directory that a walk goes into is shut by one more failure. -/
theorem walk_shut (told : world.TellsTree root) (named : world.disk.Names ProperName)
    (normal : root.Normal) {path : Path} (inside : GoesInto world exclusion root path) :
    ShutAt path error (walk world exclusion root).visits
      (walk (world.strike .listing path.text error) exclusion root).visits := by
  obtain ⟨entries, names, directory, rfl, opens, above⟩ := inside
  obtain ⟨inner, there⟩ := opens.directory
  have atNode : (Node.directory entries).at? names = some (.directory inner) := by
    rw [Node.at?_directory, there]
  have struckTold : (world.strike .listing (root.descend names).text error).TellsTree root :=
    told.strike (by decide) _ _
  have struckDirectory : (world.strike .listing (root.descend names).text error).disk.directoryAt?
      root = some entries := directory
  have proper := named.directoryAt? directory
  rw [walk_eq_tour told, walk_eq_tour struckTold, tour, tour, directory, struckDirectory]
  have inOrder : (Node.directory entries).Ordered := Disk.directoryAt?_ordered directory
  refine tourNode_shut inOrder atNode ((opensAbove_iff there).mp above)
    ⟨passesOver_here.mpr opens.kept, opens.listed⟩ (if_pos ⟨rfl, rfl⟩) ?_
  intro more found elsewhere different
  refine (if_neg ?_).symm
  rintro ⟨-, same⟩
  refine different (Path.descend_injective (Path.Normal.text_injective ?_ ?_ same))
  · exact normal.descend (proper more _ elsewhere)
  · exact normal.descend (proper names _ atNode)

/-- A walk that does not go into a directory is not changed by shutting it. -/
theorem walk_unchanged (told : world.TellsTree root) {text : String}
    (open_ : world.faults .listing text = none)
    (outside : ∀ path, GoesInto world exclusion root path → path.text ≠ text) :
    walk (world.strike .listing text error) exclusion root = walk world exclusion root := by
  have struckTold : (world.strike .listing text error).TellsTree root :=
    told.strike (by decide) _ _
  rw [walk_eq_tour told, walk_eq_tour struckTold]
  have same : tour (world.strike .listing text error) exclusion root =
      tour world exclusion root := by
    cases directory : world.disk.directoryAt? root with
    | none =>
      have struckDirectory : (world.strike .listing text error).disk.directoryAt? root = none :=
        directory
      rw [tour, tour, directory, struckDirectory]
    | some entries =>
      have struckDirectory : (world.strike .listing text error).disk.directoryAt? root =
          some entries := directory
      have inOrder : (Node.directory entries).Ordered := Disk.directoryAt?_ordered directory
      rw [tour, tour, directory, struckDirectory]
      refine (tourNode_congr inOrder fun names inner there reached kept => ?_).symm
      rw [Node.at?_directory] at there
      by_cases same : (root.descend names).text = text
      · refine absurd same (outside _ ⟨entries, names, directory, rfl, ?_, ?_⟩)
        · exact ⟨⟨inner, there⟩, passesOver_here.mp kept, same.symm ▸ open_⟩
        · exact (opensAbove_iff there).mpr reached
      · exact (if_neg fun both => same both.2).symm
  rw [same]

/-- Only the failures of listings bear on a walk. -/
theorem walk_strike_probing (told : world.TellsTree root) {stage : Stage}
    (probing : stage ∈ Stage.probing) (path : String) :
    walk (world.strike stage path error) exclusion root = walk world exclusion root := by
  have noKind : stage ≠ .kind := by rintro rfl; exact absurd probing (by decide)
  have struckTold : (world.strike stage path error).TellsTree root := told.strike noKind _ _
  have sameListing : (world.strike stage path error).faults .listing = world.faults .listing := by
    funext other
    refine if_neg ?_
    rintro ⟨rfl, -⟩
    exact absurd probing (by decide)
  have sameTour : tour (world.strike stage path error) exclusion root =
      tour world exclusion root := by
    unfold tour
    rw [sameListing]
    rfl
  rw [walk_eq_tour told, walk_eq_tour struckTold, sameTour]

end

/-- Reports that differ only if both are on one path. -/
def Observation.SameOff (path : String) (one other : Observation) : Prop :=
  one = other ∨ one.record.path = path ∧ other.record.path = path

/-- Surveys of the same length and end whose reports differ on one path only. -/
structure Survey.SameOff (path : String) (one other : Survey) : Prop where
  reports : List.Forall₂ (Observation.SameOff path) one.observations other.observations
  broken : one.broken = other.broken

theorem Survey.sameOff_upTo {path : String} {ones others : List Observation}
    (same : List.Forall₂ (fun one other => Observation.SameOff path one other ∧
      one.unusable = other.unusable) ones others) :
    Survey.SameOff path (.upTo ones) (.upTo others) := by
  induction same with
  | nil => exact ⟨.nil, rfl⟩
  | @cons one other ones others here _ ih =>
    obtain ⟨alike, usable⟩ := here
    obtain ⟨reports, broken⟩ := ih
    cases unusable : other.unusable with
    | true =>
      rw [unusable] at usable
      simp only [upTo, List.takeWhile_cons, List.any_cons, usable, unusable]
      exact ⟨.nil, rfl⟩
    | false =>
      rw [unusable] at usable
      simp only [upTo, List.takeWhile_cons, List.any_cons, usable, unusable] at reports broken ⊢
      exact ⟨.cons alike reports, broken⟩

/-- A failed request about a path changes the report on that path at most. -/
theorem Visit.observe_strike {visit : Visit} (normal : visit.path.Normal) {stage : Stage}
    (probing : stage ∈ Stage.probing) {path : String} (noNul : holdsNul path = false)
    (world : World) (error : FileError) (probes : Probes) :
    Observation.SameOff path (visit.observe world probes)
        (visit.observe (world.strike stage path error) probes) ∧
      (visit.observe world probes).unusable =
        (visit.observe (world.strike stage path error) probes).unusable := by
  cases visit with
  | unlistable directory failure => exact ⟨Or.inl rfl, rfl⟩
  | entry entry =>
    simp only [Visit.observe]
    by_cases same : entry.text = path
    · subst same
      rw [unusable_observePath noNul, unusable_observePath noNul]
      exact ⟨Or.inr ⟨path_observePath _ _ _, path_observePath _ _ _⟩, rfl⟩
    · have request : stage.request entry.text = entry.text := by
        have read : Path.ofText entry.text = entry := Path.Normal.ofText_text normal
        cases stage with
        | status => rfl
        | _ => exact congrArg Path.text read
      rw [observePath_strike (fun _ => request.symm ▸ same)]
      exact ⟨Or.inl rfl, rfl⟩

/-- The failures of listings do not bear on what is reported about an entry. -/
theorem Visit.observe_strike_listing (world : World) (text : String) (error : FileError)
    (probes : Probes) :
    Visit.observe (world.strike .listing text error) probes = Visit.observe world probes := by
  funext visit
  cases visit with
  | unlistable directory failure => rfl
  | entry entry => exact observePath_strike (fun probing => absurd probing (by decide)) error probes

/-- What a survey below some roots comes to, and how far failures reach in it. -/
structure Isolates (world : World) (exclusion : Exclusion) (probes : Probes) (roots : List String) :
    Prop where
  reports : survey world exclusion probes roots =
    .upTo ((visitsBelow world exclusion roots).map (Visit.observe world probes))
  complete : (∀ visit ∈ visitsBelow world exclusion roots, holdsNul visit.path.text = false) →
    survey world exclusion probes roots =
      ⟨(visitsBelow world exclusion roots).map (Visit.observe world probes), none⟩
  unlistable : ∀ directory error, error.path = directory.text →
    ∃ failure, ((Visit.unlistable directory error).observe world probes).sighting =
        ⟨{ path := directory.text, directory := true }, some failure⟩ ∧
      failure.stage = .listing ∧ failure.kind = .unreadable
  path : ∀ stage ∈ Stage.probing, ∀ path error, holdsNul path = false →
    Survey.SameOff path (survey world exclusion probes roots)
      (survey (world.strike stage path error) exclusion probes roots)
  directory : ∀ text error, world.faults .listing text = none →
    survey (world.strike .listing text error) exclusion probes roots =
      .upTo ((visitsBelow (world.strike .listing text error) exclusion roots).map
        (Visit.observe world probes)) ∧
    ∀ root ∈ roots,
      (∀ directory, GoesInto world exclusion (.ofText root) directory → directory.text = text →
        ShutAt directory error (walk world exclusion (.ofText root)).visits
          (walk (world.strike .listing text error) exclusion (.ofText root)).visits) ∧
      ((∀ directory, GoesInto world exclusion (.ofText root) directory → directory.text ≠ text) →
        walk (world.strike .listing text error) exclusion (.ofText root) =
          walk world exclusion (.ofText root))

/-- A survey reports its walks visit by visit, and keeps failures to the paths that they are about. -/
theorem survey_isolates (world : World) (exclusion : Exclusion) (probes : Probes)
    (roots : List String) (told : ∀ root ∈ roots, world.TellsTree (.ofText root))
    (named : world.disk.Names ProperName) : Isolates world exclusion probes roots where
  reports := survey_eq_upTo told probes
  complete noNul := by
    rw [survey_eq_upTo told probes]
    refine Survey.upTo_usable fun observation member => ?_
    obtain ⟨visit, visited, rfl⟩ := List.mem_map.mp member
    cases visit with
    | unlistable directory error => rfl
    | entry path => exact unusable_observePath (noNul _ visited) world probes
  unlistable directory error onDirectory := by
    refine ⟨⟨.listing, .failed error, { path := error.path, directory := true }⟩, ?_, rfl, rfl⟩
    rw [← onDirectory]
    rfl
  path stage probing path error noNul := by
    have noKind : stage ≠ .kind := by rintro rfl; exact absurd probing (by decide)
    have struckTold : ∀ root ∈ roots,
        (world.strike stage path error).TellsTree (.ofText root) :=
      fun root member => (told root member).strike noKind _ _
    have sameVisits : visitsBelow (world.strike stage path error) exclusion roots =
        visitsBelow world exclusion roots :=
      List.flatMap_congr fun root member =>
        congrArg Walk.visits (walk_strike_probing (told root member) probing path)
    rw [survey_eq_upTo told probes, survey_eq_upTo struckTold probes, sameVisits]
    refine Survey.sameOff_upTo ?_
    rw [List.forall₂_map_left_iff, List.forall₂_map_right_iff, List.forall₂_same]
    intro visit visited
    obtain ⟨root, member, visited⟩ := List.mem_flatMap.mp visited
    simp only [walk_eq_tour (told root member)] at visited
    have normal : visit.path.Normal := normal_of_mem_tour named (Path.normal_ofText root) visited
    exact Visit.observe_strike normal probing noNul world error probes
  directory text error open_ := by
    have struckTold : ∀ root ∈ roots,
        (world.strike .listing text error).TellsTree (.ofText root) :=
      fun root member => (told root member).strike (by decide) _ _
    refine ⟨by rw [survey_eq_upTo struckTold probes, Visit.observe_strike_listing],
      fun root member => ⟨?_, ?_⟩⟩
    · rintro directory inside rfl
      exact walk_shut (told root member) named (Path.normal_ofText root) inside
    · exact walk_unchanged (told root member) open_

theorem survey_isolates_cabinet :
    (∀ root ∈ [".", "lib"], cabinet.TellsTree (.ofText root)) ∧ cabinet.disk.Names ProperName ∧
      Isolates cabinet .standard {} [".", "lib"] := by
  have named : cabinet.disk.Names ProperName := Node.names_of_chains (by decide)
  exact ⟨cabinet_told, named, survey_isolates cabinet .standard {} [".", "lib"] cabinet_told named⟩

end ShellSurvey
