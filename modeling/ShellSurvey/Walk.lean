import ShellSurvey.Exclusion
import ShellSurvey.World

namespace ShellSurvey

/-- What a walk comes upon: an entry that is no directory, or a directory that cannot be listed. -/
inductive Visit where
  | entry (path : Path)
  | unlistable (path : Path) (error : FileError)
  deriving DecidableEq, Repr

/-- The visits of a walk, and the failure that broke it off if one did. -/
structure Walk where
  visits : List Visit
  broken : Option FileError
  deriving DecidableEq, Repr

/-- The entries that a walk came upon, in order. -/
def Walk.paths (walk : Walk) : List Path :=
  walk.visits.filterMap fun
    | .entry path => some path
    | .unlistable _ _ => none

/-- The directories that could not be listed, with what went wrong. -/
def Walk.unlistable (walk : Walk) : List (Path × FileError) :=
  walk.visits.filterMap fun
    | .entry _ => none
    | .unlistable path error => some (path, error)

def Walk.single (visit : Visit) : Walk := ⟨[visit], none⟩

def Walk.nothing : Walk := ⟨[], none⟩

/-- One walk after another. A broken walk has no successor. -/
def Walk.andThen (first second : Walk) : Walk :=
  match first.broken with
  | some error => ⟨first.visits, some error⟩
  | none => ⟨first.visits ++ second.visits, second.broken⟩

/-- Failures to follow a path that only mean that there is no directory at its end. -/
def Errno.meansNoDirectory : Errno → Bool
  | .notFound => true
  | .notADirectory => true
  | .tooManyLinks => true
  | _ => false

/-- Whether a path leads to a directory, if that can be told. -/
def Disk.leadsToDirectory (disk : Disk) (path : String) : Except FileError Bool :=
  match disk.lookup true path with
  | .ok (.directory _) => .ok true
  | .ok _ => .ok false
  | .error .nulInPath => .ok false
  | .error (.failed error) =>
    match error.errno? with
    | some errno => if errno.meansNoDirectory then .ok false else .error error
    | none => .error error

def World.leadsToDirectory (world : World) (path : String) : Except FileError Bool :=
  match world.faults .kind path with
  | some error => .error error
  | none => world.disk.leadsToDirectory path

/-- The walk at a path that is no real directory. -/
def walkLeaf (world : World) (exclusion : Exclusion) (path below : Path) : Walk :=
  match world.leadsToDirectory path.text with
  | .error error => ⟨[], some error⟩
  | .ok _ =>
    if below.parts ≠ [] ∧ exclusion.skips below false then .nothing else .single (.entry path)

mutual

/-- The walk from a node at a path, known below the root as `below`. -/
def walkNode (world : World) (exclusion : Exclusion) (path below : Path) : Node → Walk
  | .directory entries =>
    match world.leadsToDirectory path.text with
    | .error error => ⟨[], some error⟩
    | .ok _ =>
      if below.parts ≠ [] ∧ exclusion.skips below true then .nothing
      else
        match world.faults .listing path.text with
        | some error => .single (.unlistable path error)
        | none => walkEntries world exclusion path below entries
  | .file _ _ => walkLeaf world exclusion path below
  | .pipe _ => walkLeaf world exclusion path below
  | .link _ => walkLeaf world exclusion path below

def walkEntries (world : World) (exclusion : Exclusion) (path below : Path) :
    List (String × Node) → Walk
  | [] => .nothing
  | (name, node) :: rest =>
    (walkNode world exclusion (path.child name) (below.child name) node).andThen
      (walkEntries world exclusion path below rest)

end

/-- The walk from a root. What is not found is visited like any other entry. -/
def walk (world : World) (exclusion : Exclusion) (root : Path) : Walk :=
  match world.disk.lookup false root.text with
  | .ok node => walkNode world exclusion root .here node
  | .error _ => walkLeaf world exclusion root .here

end ShellSurvey
