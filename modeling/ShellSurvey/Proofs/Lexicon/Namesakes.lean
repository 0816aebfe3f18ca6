import ShellSurvey.Lexicon.Standard
import ShellSurvey.Proofs.Text.Lowered

namespace ShellSurvey

theorem mem_of_lookup {α : Type} {entries : List (String × α)} {key : String} {value : α}
    (known : entries.lookup key = some value) : (key, value) ∈ entries := by
  obtain ⟨before, after, rfl, _⟩ := List.lookup_eq_some_iff.mp known
  simp

theorem lookup_congr_keys {β : Type} {table : List (String × β)} {name other : String}
    (same : ∀ entry ∈ table, name = entry.1 ↔ other = entry.1) :
    table.lookup name = table.lookup other := by
  induction table with
  | nil => rfl
  | cons head rest ih =>
    obtain ⟨key, value⟩ := head
    obtain ⟨here, later⟩ := List.forall_mem_cons.mp same
    have keys : (name == key) = (other == key) := by
      rw [Bool.eq_iff_iff, beq_iff_eq, beq_iff_eq]
      exact here
    rw [List.lookup_cons, List.lookup_cons, keys, ih later]

theorem contains_congr_keys {keys : List String} {name other : String}
    (same : ∀ key ∈ keys, name = key ↔ other = key) : keys.contains name = keys.contains other := by
  rw [Bool.eq_iff_iff, List.contains_iff_mem, List.contains_iff_mem]
  constructor
  · intro member
    exact (same name member).mp rfl ▸ member
  · intro member
    exact (same other member).mpr rfl ▸ member

/-- Every extension that a lexicon knows. -/
def Lexicon.extensionKeys (lexicon : Lexicon) : List String :=
  lexicon.extensionVerdicts.map Prod.fst ++ lexicon.extensionInterpreters.map Prod.fst ++
    lexicon.configExtensions ++ lexicon.altExtensions ++ lexicon.machineExtensions

/-- No extension that a lexicon knows has a small sigma in it. -/
def Lexicon.SigmaFree (lexicon : Lexicon) : Prop :=
  ∀ key ∈ lexicon.extensionKeys, ShellSurvey.SigmaFree key.toList

theorem Lexicon.sigmaFree_standard : Lexicon.standard.SigmaFree := by
  unfold SigmaFree
  decide +kernel

section

variable {lexicon : Lexicon} (free : lexicon.SigmaFree)
include free

theorem Lexicon.SigmaFree.key_iff {key : String} (known : key ∈ lexicon.extensionKeys)
    (name : String) : lowerCase (extensionOf name) = key ↔ extensionOf (lowerCase name) = key :=
  lowerCase_extensionOf_eq_iff (free key known) name

/-- The verdict on an extension is that on the extension of the name in lower case. -/
theorem Lexicon.SigmaFree.extensionVerdict (name : String) :
    lexicon.extensionVerdict (extensionOf name) =
      lexicon.extensionVerdicts.lookup (extensionOf (lowerCase name)) := by
  refine lookup_congr_keys fun entry member => free.key_iff ?_ name
  simp only [extensionKeys, List.mem_append]
  exact Or.inl (Or.inl (Or.inl (Or.inl (List.mem_map_of_mem member))))

theorem Lexicon.SigmaFree.extensionInterpreter (name : String) :
    lexicon.extensionInterpreter (extensionOf name) =
      lexicon.extensionInterpreters.lookup (extensionOf (lowerCase name)) := by
  refine lookup_congr_keys fun entry member => free.key_iff ?_ name
  simp only [extensionKeys, List.mem_append]
  exact Or.inl (Or.inl (Or.inl (Or.inr (List.mem_map_of_mem member))))

theorem Lexicon.SigmaFree.contains (name : String) {keys : List String}
    (known : keys ⊆ lexicon.extensionKeys) :
    keys.contains (lowerCase (extensionOf name)) = keys.contains (extensionOf (lowerCase name)) :=
  contains_congr_keys fun _ member => free.key_iff (known member) name

end

/-- Two files are looked up alike, by their extensions and by their names. -/
structure Lexicon.SameNames (lexicon : Lexicon) (extension filename otherExtension
    otherFilename : String) : Prop where
  extensionVerdict : lexicon.extensionVerdict extension = lexicon.extensionVerdict otherExtension
  filenameVerdict : lexicon.filenameVerdict filename = lexicon.filenameVerdict otherFilename
  extensionInterpreter :
    lexicon.extensionInterpreter extension = lexicon.extensionInterpreter otherExtension
  isConfig : lexicon.isConfig extension filename = lexicon.isConfig otherExtension otherFilename
  isMachineMade : lexicon.isMachineMade extension = lexicon.isMachineMade otherExtension
  isAltShell : ∀ interpreter, lexicon.isAltShell interpreter extension filename =
    lexicon.isAltShell interpreter otherExtension otherFilename
  extensionless : extension = "" ↔ otherExtension = ""

/-- Names that are the same in lower case are looked up alike. -/
theorem Lexicon.SigmaFree.sameNames {lexicon : Lexicon} (free : lexicon.SigmaFree)
    {name other : String} (same : lowerCase name = lowerCase other) :
    lexicon.SameNames (extensionOf name) name (extensionOf other) other := by
  have config : lexicon.configExtensions ⊆ lexicon.extensionKeys := by
    intro key member
    simp only [extensionKeys, List.mem_append]
    exact Or.inl (Or.inl (Or.inr member))
  have alt : lexicon.altExtensions ⊆ lexicon.extensionKeys := by
    intro key member
    simp only [extensionKeys, List.mem_append]
    exact Or.inl (Or.inr member)
  have machine : lexicon.machineExtensions ⊆ lexicon.extensionKeys := by
    intro key member
    simp only [extensionKeys, List.mem_append]
    exact Or.inr member
  constructor
  · rw [free.extensionVerdict, free.extensionVerdict, same]
  · rw [filenameVerdict, filenameVerdict, same]
  · rw [free.extensionInterpreter, free.extensionInterpreter, same]
  · simp only [isConfig, free.contains _ config, same]
  · simp only [isMachineMade, free.contains _ machine, same]
  · intro interpreter
    simp only [isAltShell, free.contains _ alt, same]
  · have dot : IsSign '.' := by decide
    rw [extensionOf_eq_empty_iff, extensionOf_eq_empty_iff, ← dot.mem_lowerCase_iff name, same,
      dot.mem_lowerCase_iff]

end ShellSurvey
