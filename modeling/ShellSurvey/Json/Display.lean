import ShellSurvey.Json.Basic
import ShellSurvey.Number.Shortest
import ShellSurvey.Text.Quoted
import ShellSurvey.Text.Split

namespace ShellSurvey

def plainFloatTexts : SpecialTexts := ⟨"nan", "inf"⟩

mutual

/-- A value written so that texts can be told from other values. -/
def Json.literal : Json → String
  | .null => "None"
  | .bool true => "True"
  | .bool false => "False"
  | .int n => intText n
  | .float x => x.text plainFloatTexts
  | .str s => quoted s
  | .arr elements => "[" ++ joinTexts ", " (literalElements elements) ++ "]"
  | .obj members => "\x7b" ++ joinTexts ", " (literalMembers members) ++ "\x7d"

def literalElements : List Json → List String
  | [] => []
  | x :: xs => x.literal :: literalElements xs

def literalMembers : Members → List String
  | [] => []
  | (name, value) :: rest => (quoted name ++ ": " ++ value.literal) :: literalMembers rest

end

/-- The kind of a value, as messages name it. -/
def Json.kindName : Json → String
  | .null => "NoneType"
  | .bool _ => "bool"
  | .int _ => "int"
  | .float _ => "float"
  | .str _ => "str"
  | .arr _ => "list"
  | .obj _ => "dict"

/-- A value as it stands in running text. -/
def Json.display : Json → String
  | .str s => s
  | value => value.literal

end ShellSurvey
