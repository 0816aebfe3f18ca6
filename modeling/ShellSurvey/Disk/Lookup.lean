import ShellSurvey.Disk.Basic
import ShellSurvey.FileError
import ShellSurvey.Path

namespace ShellSurvey

def linkLimit : Nat := 40

/-- The most bytes of one name. -/
def nameLimit : Nat := 255

/-- A path with this many bytes is too long. -/
def pathLimit : Nat := 4096

/-- Where a path leads: the chain of names from the top, free of links and dots, and what is there. -/
structure Spot where
  names : List String
  node : Node

def isAbsolute (path : String) : Bool := path.toList.head? == some '/'

/-- Where names lead outside the tree: no file is there, and the only directories are those above it. -/
def locateOutside (names : List String) : Except Errno Spot :=
  match names.find? fun name => name ≠ "" ∧ name ≠ "." ∧ name ≠ ".." with
  | none => .ok ⟨[], .directory []⟩
  | some name => .error (if nameLimit < name.utf8ByteSize then .nameTooLong else .notFound)

/-- Follows the remaining names from the directory at `here`. -/
def locate (listing : Listing) (follow : Bool) (links : Nat) (here : List String) :
    List String → Except Errno Spot
  | [] => .ok ⟨here, .directory (listing.below here)⟩
  | name :: rest =>
    if name = "" ∨ name = "." then locate listing follow links here rest
    else if name = ".." then
      if here = [] then locateOutside rest else locate listing follow links here.dropLast rest
    else if nameLimit < name.utf8ByteSize then .error .nameTooLong
    else
      match (listing.below here).lookup name with
      | none => .error .notFound
      | some (.directory _) => locate listing follow links (here ++ [name]) rest
      | some (.link target) =>
        if rest = [] ∧ follow = false then .ok ⟨here ++ [name], .link target⟩
        else
          match links with
          | 0 => .error .tooManyLinks
          | links + 1 =>
            if isAbsolute target then locateOutside (pathNames target ++ rest)
            else locate listing follow links here (pathNames target ++ rest)
      | some node => if rest = [] then .ok ⟨here ++ [name], node⟩ else .error .notADirectory
termination_by names => (links, names.length)

def Disk.spot (disk : Disk) (follow : Bool) (path : String) : Except Errno Spot :=
  if path = "" then .error .notFound
  else if pathLimit ≤ path.utf8ByteSize then .error .nameTooLong
  else if isAbsolute path then locateOutside (pathNames path)
  else locate disk.entries follow linkLimit [] (pathNames path)

def holdsNul (path : String) : Bool := path.toList.contains '\x00'

/-- What a path names, following a link at its end or not. Every directory on the way can be searched; where
one cannot, the request fails on its own account. -/
def Disk.lookup (disk : Disk) (follow : Bool) (path : String) : Except Refusal Node :=
  if holdsNul path then .error .nulInPath
  else
    match disk.spot follow path with
    | .ok spot => .ok spot.node
    | .error errno => .error (.failed (.system errno path))

/-- The bytes behind a path. -/
def Disk.content (disk : Disk) (path : String) : Except Refusal Bytes :=
  match disk.lookup true path with
  | .ok (.file content _) => .ok content
  | .ok (.directory _) => .error (.failed (.system .isADirectory path))
  | .ok _ => .ok []
  | .error refusal => .error refusal

end ShellSurvey
