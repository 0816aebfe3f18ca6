import ShellSurvey.Proofs.Classify.Strict
import ShellSurvey.Proofs.Survey.Observe
import ShellSurvey.Proofs.Walk.Following
import ShellSurvey.Proofs.Walk.Names
import ShellSurvey.Proofs.Walk.Telling

namespace ShellSurvey

/-- Nothing below some roots stands in the way of a walk. -/
structure World.Passable (world : World) (roots : List String) : Prop where
  told : ∀ root ∈ roots, world.TellsTree (.ofText root)
  roots : ∀ root ∈ roots, NulFree root
  names : world.disk.Names NulFree

theorem Disk.Names.of_within {property : String → Prop} {later earlier : Disk}
    (within : later.Within earlier) (named : earlier.Names property) : later.Names property := by
  intro names found there
  obtain ⟨other, before, _⟩ := within names found there
  exact named names other before

/-- Taking entries away leaves nothing in the way. -/
theorem World.Passable.of_within {world : World} {later : Disk} (within : later.Within world.disk)
    {roots : List String} (passable : world.Passable roots) :
    { world with disk := later }.Passable roots where
  told root member := (passable.told root member).of_within within
  roots := passable.roots
  names := passable.names.of_within within

theorem World.Passable.of_cons {world : World} {root : String} {rest : List String}
    (passable : world.Passable (root :: rest)) : world.Passable [root] ∧ world.Passable rest := by
  obtain ⟨toldHere, toldLater⟩ := List.forall_mem_cons.mp passable.told
  obtain ⟨freeHere, freeLater⟩ := List.forall_mem_cons.mp passable.roots
  exact ⟨⟨List.forall_mem_singleton.mpr toldHere, List.forall_mem_singleton.mpr freeHere,
    passable.names⟩, ⟨toldLater, freeLater, passable.names⟩⟩

/-- What is reported about all that the walks from some roots come upon. -/
def reportsBelow (world : World) (exclusion : Exclusion) (probes : Probes) (roots : List String) :
    List Observation :=
  (visitsBelow world exclusion roots).map (Visit.observe world probes)

/-- A survey that goes through everything below some roots, each entry classified as its guards let it
be. -/
structure SurveyCompletes (world : World) (exclusion : Exclusion) (probes : Probes)
    (roots : List String) : Prop where
  whole : survey world exclusion probes roots =
    ⟨reportsBelow world exclusion probes roots, none⟩
  guarded : ∀ path, .entry path ∈ visitsBelow world exclusion roots →
    classifyStrictly world .standard probes path.text =
      (classify world .standard probes path.text).mapError .failed

section

variable {world : World} {exclusion : Exclusion} {roots : List String}

theorem nulFree_of_visited (passable : world.Passable roots) {visit : Visit}
    (visited : visit ∈ visitsBelow world exclusion roots) : NulFree visit.path.text := by
  obtain ⟨root, member, visited⟩ := List.mem_flatMap.mp visited
  simp only [walk_eq_tour (passable.told root member)] at visited
  have above := Path.nulFree_ofText (passable.roots root member)
  obtain ⟨_, free⟩ := names_of_mem_tour passable.names above visited
  exact Path.nulFree_text free

theorem nulFree_of_entry (passable : world.Passable roots) {path : Path}
    (visited : .entry path ∈ visitsBelow world exclusion roots) : NulFree path.text := by
  have free := nulFree_of_visited passable visited
  simpa only [Visit.path] using free

/-- A survey of such a tree reports on all of it, and no guard stops a classification. -/
theorem survey_completes (passable : world.Passable roots) (exclusion : Exclusion)
    (probes : Probes) : SurveyCompletes world exclusion probes roots where
  whole := by
    rw [survey_eq_upTo passable.told probes]
    refine Survey.upTo_usable fun observation member => ?_
    obtain ⟨visit, visited, rfl⟩ := List.mem_map.mp member
    cases visit with
    | unlistable directory error => rfl
    | entry path => exact unusable_observePath (nulFree_of_entry passable visited) world probes
  guarded path visited :=
    classifyStrictly_eq world .standard probes (nulFree_of_entry passable visited)

/-- A report is a failure, or a record of a path without a NUL. -/
theorem failed_or_nulFree (passable : world.Passable roots) {probes : Probes}
    {observation : Observation} (member : observation ∈ reportsBelow world exclusion probes roots) :
    observation.failed = true ∨ NulFree observation.record.path := by
  obtain ⟨visit, visited, rfl⟩ := List.mem_map.mp member
  cases visit with
  | unlistable directory error => exact Or.inl rfl
  | entry path =>
    have onPath := path_observePath world probes path.text
    exact Or.inr (onPath.symm ▸ nulFree_of_entry passable visited)

end

end ShellSurvey
