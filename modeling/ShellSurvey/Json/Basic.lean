import ShellSurvey.Number.Binary64

namespace ShellSurvey

inductive Json where
  | null
  | bool (value : Bool)
  | int (value : Int)
  | float (value : Binary64)
  | str (value : String)
  | arr (elements : List Json)
  | obj (members : List (String × Json))
  deriving Inhabited, Repr

abbrev Members := List (String × Json)

/-- Sets the value of a name: in place when the name is known, at the end otherwise. -/
def setMember (name : String) (value : Json) : Members → Members
  | [] => [(name, value)]
  | (known, old) :: rest =>
    if known = name then (name, value) :: rest else (known, old) :: setMember name value rest

def Json.member? (name : String) : Json → Option Json
  | .obj members => members.lookup name
  | _ => none

def Json.text? : Json → Option String
  | .str text => some text
  | _ => none

/-- A value that counts as something: not null, false, zero or empty. -/
def Json.present : Json → Bool
  | .null => false
  | .bool b => b
  | .int n => n != 0
  | .float x => x.bits.toNat % twoTo 63 != 0
  | .str s => s != ""
  | .arr elements => !elements.isEmpty
  | .obj members => !members.isEmpty

/-- The integer that a value counts as: itself, or one and zero for the truth values. -/
def Json.integer? : Json → Option Int
  | .bool b => some (if b then 1 else 0)
  | .int n => some n
  | _ => none

/-- An integer and a floating point number of the same size. -/
def Binary64.equalsInt (x : Binary64) (n : Int) : Bool :=
  match x.value with
  | .finite negative significand power =>
    let signed : Int := if negative then -significand else significand
    n * twoTo (-power).toNat == signed * twoTo power.toNat
  | _ => false

/-- Zeros of both signs are equal, and what is not a number equals itself. -/
def Binary64.equals (x y : Binary64) : Bool :=
  match x.value, y.value with
  | .nan, .nan => true
  | .nan, _ => false
  | _, .nan => false
  | _, _ => x == y || (x.bits.toNat % twoTo 63 == 0 && y.bits.toNat % twoTo 63 == 0)

def sameNumber (a b : Json) : Bool :=
  match a, b with
  | .float x, .float y => x.equals y
  | .float x, other => (other.integer?.map x.equalsInt).getD false
  | other, .float y => (other.integer?.map y.equalsInt).getD false
  | _, _ => a.integer?.isSome && a.integer? == b.integer?

/-- Where a value stands among the numbers: below all of them, at `numerator / 2 ^ halvings`, or above
all of them. -/
inductive Standing where
  | below
  | at (numerator : Int) (halvings : Nat)
  | above
  deriving DecidableEq, Repr

def Json.standing? : Json → Option Standing
  | .float x =>
    match x.value with
    | .nan => none
    | .infinite negative => some (if negative then .below else .above)
    | .finite negative significand power =>
      let signed : Int := if negative then -significand else significand
      some (.at (signed * twoTo power.toNat) (-power).toNat)
  | value => value.integer?.map (.at · 0)

def Standing.isLess : Standing → Standing → Bool
  | .below, other => other ≠ .below
  | .at a i, .at b j => a * twoTo j < b * twoTo i
  | .at _ _, .above => true
  | _, _ => false

def lessNumber (a b : Json) : Bool :=
  match a.standing?, b.standing? with
  | some x, some y => x.isLess y
  | _, _ => false

/-- The first of the least numbers among some values. -/
def leastNumber? : List Json → Option Json
  | [] => none
  | value :: rest =>
    some (rest.foldl (fun least other => if lessNumber other least then other else least) value)

mutual

/-- Equality of values, numbers by size and objects by their members in any order. -/
def Json.same : Json → Json → Bool
  | .null, .null => true
  | .str s, .str t => s == t
  | .arr xs, .arr ys => sameElements xs ys
  | .obj xs, .obj ys => xs.length == ys.length && sameMembers xs ys
  | a, b => sameNumber a b

def sameElements : List Json → List Json → Bool
  | [], [] => true
  | x :: xs, y :: ys => x.same y && sameElements xs ys
  | _, _ => false

/-- Every member of the first list has an equal one in the second. -/
def sameMembers : Members → Members → Bool
  | [], _ => true
  | (name, value) :: rest, ys =>
    (match ys.lookup name with
      | some other => value.same other
      | none => false) && sameMembers rest ys

end

end ShellSurvey
