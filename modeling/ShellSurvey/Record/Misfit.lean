import ShellSurvey.Record.Loose

namespace ShellSurvey

/-- A use that the kind of a value does not allow: looking it up in a table, an operation on texts, or
taking bits out of it. -/
inductive Misfit where
  | noKey (kind : String)
  | noText (kind operation : String)
  | noBits (kind : String)
  deriving DecidableEq, Repr

def Misfit.message : Misfit → String
  | .noKey kind => "unhashable type: '" ++ kind ++ "'"
  | .noText kind operation => "'" ++ kind ++ "' object has no attribute '" ++ operation ++ "'"
  | .noBits kind => "unsupported operand type(s) for &: '" ++ kind ++ "' and 'int'"

/-- Collections are no keys. -/
def Json.keyMisfit? : Json → Option Misfit
  | .arr elements => some (.noKey (Json.arr elements).kindName)
  | .obj members => some (.noKey (Json.obj members).kindName)
  | _ => none

def Json.textMisfit? (operation : String) (value : Json) : Option Misfit :=
  if value.text?.isSome then none else some (.noText value.kindName operation)

def Json.bitsMisfit? (value : Json) : Option Misfit :=
  if value.integer?.isSome then none else some (.noBits value.kindName)

theorem Json.textMisfit?_str (operation text : String) :
    (Json.str text).textMisfit? operation = none := by
  simp [Json.textMisfit?, Json.text?]

theorem Json.bitsMisfit?_int (n : Int) : (Json.int n).bitsMisfit? = none := by
  simp [Json.bitsMisfit?, Json.integer?]

end ShellSurvey
