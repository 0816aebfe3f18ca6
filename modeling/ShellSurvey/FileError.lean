import ShellSurvey.Text.Digit
import ShellSurvey.Text.Quoted

namespace ShellSurvey

inductive Errno where
  | notPermitted
  | notFound
  | interrupted
  | inputOutput
  | accessDenied
  | notADirectory
  | isADirectory
  | nameTooLong
  | tooManyLinks
  deriving DecidableEq, Repr

def Errno.number : Errno → Nat
  | .notPermitted => 1
  | .notFound => 2
  | .interrupted => 4
  | .inputOutput => 5
  | .accessDenied => 13
  | .notADirectory => 20
  | .isADirectory => 21
  | .nameTooLong => 36
  | .tooManyLinks => 40

def Errno.text : Errno → String
  | .notPermitted => "Operation not permitted"
  | .notFound => "No such file or directory"
  | .interrupted => "Interrupted system call"
  | .inputOutput => "Input/output error"
  | .accessDenied => "Permission denied"
  | .notADirectory => "Not a directory"
  | .isADirectory => "Is a directory"
  | .nameTooLong => "File name too long"
  | .tooManyLinks => "Too many levels of symbolic links"

/-- Every number, under its conventional name. -/
def Errno.names : List (String × Errno) :=
  [("EPERM", .notPermitted), ("ENOENT", .notFound), ("EINTR", .interrupted), ("EIO", .inputOutput),
    ("EACCES", .accessDenied), ("ENOTDIR", .notADirectory), ("EISDIR", .isADirectory),
    ("ENAMETOOLONG", .nameTooLong), ("ELOOP", .tooManyLinks)]

inductive FileError where
  | system (errno : Errno) (path : String)
  | other (text : String)
  deriving DecidableEq, Repr

def FileError.errno? : FileError → Option Errno
  | .system errno _ => some errno
  | .other _ => none

/-- The path concerned, empty if the failure does not tell. -/
def FileError.path : FileError → String
  | .system _ path => path
  | .other _ => ""

/-- What went wrong, without the path where there is a standard text. -/
def FileError.reason : FileError → String
  | .system errno _ => errno.text
  | .other text => text

def FileError.message : FileError → String
  | .system errno path =>
    "[Errno " ++ natText errno.number ++ "] " ++ errno.text ++ ": " ++ quoted path
  | .other text => text

/-- Why the file system answers no request about a path: the request failed, or the path holds a NUL
and names nothing at all. -/
inductive Refusal where
  | nulInPath
  | failed (error : FileError)
  deriving DecidableEq, Repr

def Refusal.message : Refusal → String
  | .nulInPath => "embedded null byte"
  | .failed error => error.message

end ShellSurvey
