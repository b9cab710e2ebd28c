/-
JSON values.

Numbers come in two kinds.  Integers that fit 64 bits are numbers; every other number is kept as
the text it is shown by, because nothing is ever computed from it and only messages mention it.
The members of an object are a list, so that an object read from a text keeps its order and its
repeated keys.
-/

namespace LineCut

/-- A JSON value. -/
inductive Json where
  | null
  | bool (value : Bool)
  | int (value : Int)
  | real (shown : String)
  | str (value : String)
  | arr (items : List Json)
  | obj (members : List (String × Json))
  deriving Repr, BEq, Inhabited

namespace Json

/-- A natural number as a value. -/
def nat (n : Nat) : Json :=
  .int n

/-- A list of texts as a value. -/
def strings (texts : List String) : Json :=
  .arr (texts.map .str)

/-- A value, or null in place of none. -/
def ofOption : Option Json → Json
  | some value => value
  | none => .null

/-- The members that are there, in order. -/
def present (members : List (Option (String × Json))) : Json :=
  .obj (members.filterMap id)

mutual

/-- How deeply arrays and objects are nested in a value. -/
def depth : Json → Nat
  | .null | .bool _ | .int _ | .real _ | .str _ => 0
  | .arr items => depthItems items + 1
  | .obj members => depthMembers members + 1
termination_by structural value => value

/-- The greatest depth among the items. -/
def depthItems : List Json → Nat
  | [] => 0
  | item :: rest => max (depth item) (depthItems rest)
termination_by structural items => items

/-- The greatest depth among the members' values. -/
def depthMembers : List (String × Json) → Nat
  | [] => 0
  | (_, value) :: rest => max (depth value) (depthMembers rest)
termination_by structural members => members

end

mutual

/-- The same value with the members of every object sorted by their keys. -/
def sorted : Json → Json
  | .null => .null
  | .bool b => .bool b
  | .int n => .int n
  | .real shown => .real shown
  | .str text => .str text
  | .arr items => .arr (sortedItems items)
  | .obj members => .obj ((sortedMembers members).mergeSort fun a b => a.1 ≤ b.1)
termination_by structural value => value

/-- The items with their members sorted. -/
def sortedItems : List Json → List Json
  | [] => []
  | item :: rest => sorted item :: sortedItems rest
termination_by structural items => items

/-- The members with their values' members sorted. -/
def sortedMembers : List (String × Json) → List (String × Json)
  | [] => []
  | (key, value) :: rest => (key, sorted value) :: sortedMembers rest
termination_by structural members => members

end

end Json

end LineCut
