import ShellSurvey.Json.Basic
import ShellSurvey.Number.Shortest
import ShellSurvey.Text.Hex

namespace ShellSurvey

inductive Layout where
  | compact
  | indented
  deriving DecidableEq, Repr

def escapedUnit (unit : Nat) : List Char := '\\' :: 'u' :: hexDigits 4 unit

/-- A character inside a written string. -/
def jsonChar (c : Char) : List Char :=
  if c = '\x22' then ['\\', '\x22']
  else if c = '\\' then ['\\', '\\']
  else if c = '\n' then ['\\', 'n']
  else if c = '\r' then ['\\', 'r']
  else if c = '\t' then ['\\', 't']
  else if c = '\x08' then ['\\', 'b']
  else if c = '\x0c' then ['\\', 'f']
  else if 0x20 ≤ c.toNat ∧ c.toNat ≤ 0x7E then [c]
  else if c.toNat < 0x10000 then escapedUnit c.toNat
  else
    let offset := c.toNat - 0x10000
    escapedUnit (0xD800 + offset / 0x400) ++ escapedUnit (0xDC00 + offset % 0x400)

/-- A string in its quotes, in front of what follows. -/
def jsonStringOnto (text : String) (tail : List Char) : List Char :=
  '\x22' :: (text.toList.flatMap jsonChar ++ '\x22' :: tail)

def jsonFloatTexts : SpecialTexts := ⟨"NaN", "Infinity"⟩

/-- The break in front of an item at a depth. -/
def Layout.lineBreak (layout : Layout) (depth : Nat) : List Char :=
  match layout with
  | .compact => []
  | .indented => '\n' :: List.replicate (2 * depth) ' '

def Layout.colon : Layout → List Char
  | .compact => [':']
  | .indented => [':', ' ']

mutual

/-- A value at a depth, in front of what follows. -/
def Json.renderOnto (layout : Layout) : Nat → Json → List Char → List Char
  | _, .null, tail => "null".toList ++ tail
  | _, .bool true, tail => "true".toList ++ tail
  | _, .bool false, tail => "false".toList ++ tail
  | _, .int n, tail => intDigits n ++ tail
  | _, .float x, tail => (x.text jsonFloatTexts).toList ++ tail
  | _, .str s, tail => jsonStringOnto s tail
  | _, .arr [], tail => '[' :: ']' :: tail
  | depth, .arr (x :: xs), tail =>
    '[' :: (layout.lineBreak (depth + 1) ++ x.renderOnto layout (depth + 1)
      (renderElementsOnto layout (depth + 1) xs (layout.lineBreak depth ++ ']' :: tail)))
  | _, .obj [], tail => '\x7b' :: '\x7d' :: tail
  | depth, .obj ((name, value) :: rest), tail =>
    '\x7b' :: (layout.lineBreak (depth + 1) ++ jsonStringOnto name
      (layout.colon ++ value.renderOnto layout (depth + 1)
        (renderMembersOnto layout (depth + 1) rest (layout.lineBreak depth ++ '\x7d' :: tail))))

/-- The elements after the first one, each behind its comma. -/
def renderElementsOnto (layout : Layout) : Nat → List Json → List Char → List Char
  | _, [], tail => tail
  | depth, x :: xs, tail =>
    ',' :: (layout.lineBreak depth ++
      x.renderOnto layout depth (renderElementsOnto layout depth xs tail))

/-- The members after the first one, each behind its comma. -/
def renderMembersOnto (layout : Layout) : Nat → Members → List Char → List Char
  | _, [], tail => tail
  | depth, (name, value) :: rest, tail =>
    ',' :: (layout.lineBreak depth ++ jsonStringOnto name
      (layout.colon ++ value.renderOnto layout depth (renderMembersOnto layout depth rest tail)))

end

/-- The characters that a value is written with. -/
def Json.render (layout : Layout) (depth : Nat) (value : Json) : List Char :=
  value.renderOnto layout depth []

theorem jsonStringOnto_append (text : String) (tail more : List Char) :
    jsonStringOnto text tail ++ more = jsonStringOnto text (tail ++ more) := by
  simp [jsonStringOnto]

mutual

theorem Json.renderOnto_append (layout : Layout) (value : Json) (depth : Nat)
    (tail more : List Char) :
    value.renderOnto layout depth tail ++ more = value.renderOnto layout depth (tail ++ more) := by
  match value with
  | .null => simp [Json.renderOnto]
  | .bool b => cases b <;> simp [Json.renderOnto]
  | .int n => simp [Json.renderOnto]
  | .float x => simp [Json.renderOnto]
  | .str s => simp [Json.renderOnto, jsonStringOnto_append]
  | .arr [] => simp [Json.renderOnto]
  | .arr (x :: xs) =>
    simp [Json.renderOnto, x.renderOnto_append layout, renderElementsOnto_append layout xs]
  | .obj [] => simp [Json.renderOnto]
  | .obj ((name, value) :: rest) =>
    simp [Json.renderOnto, jsonStringOnto_append, value.renderOnto_append layout,
      renderMembersOnto_append layout rest]

theorem renderElementsOnto_append (layout : Layout) (elements : List Json) (depth : Nat)
    (tail more : List Char) :
    renderElementsOnto layout depth elements tail ++ more =
      renderElementsOnto layout depth elements (tail ++ more) := by
  match elements with
  | [] => simp [renderElementsOnto]
  | x :: xs =>
    simp [renderElementsOnto, x.renderOnto_append layout, renderElementsOnto_append layout xs]

theorem renderMembersOnto_append (layout : Layout) (members : Members) (depth : Nat)
    (tail more : List Char) :
    renderMembersOnto layout depth members tail ++ more =
      renderMembersOnto layout depth members (tail ++ more) := by
  match members with
  | [] => simp [renderMembersOnto]
  | (name, value) :: rest =>
    simp [renderMembersOnto, jsonStringOnto_append, value.renderOnto_append layout,
      renderMembersOnto_append layout rest]

end

theorem Json.renderOnto_eq (layout : Layout) (depth : Nat) (value : Json) (tail : List Char) :
    value.renderOnto layout depth tail = value.render layout depth ++ tail := by
  rw [Json.render, Json.renderOnto_append, List.nil_append]

def Json.text (layout : Layout) (value : Json) : String := .ofList (value.render layout 0)

end ShellSurvey
