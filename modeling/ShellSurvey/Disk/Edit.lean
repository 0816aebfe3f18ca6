import ShellSurvey.Disk.Lookup

namespace ShellSurvey

/-- A new entry. A directory starts empty. -/
inductive NewEntry where
  | file (content : Bytes) (mode : Nat)
  | pipe (mode : Nat)
  | link (target : String)
  | directory
  deriving DecidableEq, Repr

def NewEntry.node : NewEntry → Node
  | .file content mode => .file content mode
  | .pipe mode => .pipe mode
  | .link target => .link target
  | .directory => .directory []

/-- A directory stays as it is; anything else gives way to the new entry. -/
def NewEntry.place (entry : NewEntry) : Option Node → Option Node
  | some (.directory inner) => some (.directory inner)
  | _ => some entry.node

theorem NewEntry.keepsOrder_place (entry : NewEntry) : KeepsOrder entry.place := by
  intro old inOrder node member
  have fresh : entry.node.Ordered := by cases entry <;> trivial
  match old with
  | some (.directory inner) => exact inOrder _ member
  | none | some (.file _ _) | some (.pipe _) | some (.link _) =>
    simp only [NewEntry.place, Option.mem_def, Option.some.injEq] at member
    exact member ▸ fresh

/-- Goes through the names from `here`, making directories where nothing is found. -/
def Disk.makeDirectories (disk : Disk) (here : List String) : List String → Disk × List String
  | [] => (disk, here)
  | name :: rest =>
    match locate disk.entries true linkLimit here [name] with
    | .ok spot => disk.makeDirectories spot.names rest
    | .error _ =>
      (disk.alter (here ++ [name]) NewEntry.directory.place (NewEntry.keepsOrder_place _)).makeDirectories
        (here ++ [name]) rest

/-- Places an entry, with the directories above it. -/
def Disk.place (disk : Disk) (path : String) (entry : NewEntry) : Disk :=
  let names := (Path.ofText path).parts
  match names.getLast? with
  | none => disk
  | some last =>
    let (disk, here) := disk.makeDirectories [] names.dropLast
    disk.alter (here ++ [last]) entry.place (NewEntry.keepsOrder_place _)

def setMode (mode : Nat) : Option Node → Option Node
  | some (.file content _) => some (.file content mode)
  | some (.pipe _) => some (.pipe mode)
  | other => other

theorem keepsOrder_setMode (mode : Nat) : KeepsOrder (setMode mode) := by
  intro old inOrder node member
  match old with
  | some (.file _ _) | some (.pipe _) =>
    simp only [setMode, Option.mem_def, Option.some.injEq] at member
    subst member
    trivial
  | none | some (.directory _) | some (.link _) => exact inOrder _ member

/-- Sets the permissions of what a path leads to. -/
def Disk.setMode (disk : Disk) (path : String) (mode : Nat) : Except Refusal Disk :=
  if holdsNul path then .error .nulInPath
  else
    match disk.spot true path with
    | .ok spot => .ok (disk.alter spot.names (ShellSurvey.setMode mode) (keepsOrder_setMode mode))
    | .error errno => .error (.failed (.system errno path))

/-- Removes what a path names, a link rather than its target, and a directory with all below it. -/
def Disk.remove (disk : Disk) (path : String) : Except Refusal Disk :=
  if holdsNul path then .error .nulInPath
  else
    match disk.spot false path with
    | .ok spot => .ok (disk.alter spot.names (fun _ => none) (by intro _ _ _ member; simp at member))
    | .error errno => .error (.failed (.system errno path))

end ShellSurvey
