/-
Regions: which lines belong together, and what is to become of them.

A region is described by a test that opens it and a rule that ends it.  The rules look at the
lines behind the opening one, except that balanced delimiters are counted from the opening line
on.  The end of a region is the first line that does not belong to it.

There are two forms of everything here.  A `RegionSpec` is what a plan says; a `Region` is what
the plan means, with its tests understood and its defaults filled in.
-/
import LineCut.LineTest

namespace LineCut

/-- Whether a region is looked for once or as often as it occurs. -/
inductive Multiplicity where
  | first
  | all
  deriving DecidableEq, Repr, Inhabited

/-- What becomes of the lines of a region. -/
inductive Action where
  | delete
  | replace (lines : List String)
  deriving DecidableEq, Repr, Inhabited

/-- The lines an action puts in. -/
def Action.insertion : Action → List String
  | delete => []
  | replace lines => lines

/-! ### What a plan says -/

/-- How the end of a region is found, as a plan says it. -/
inductive EndSpec where
  /-- At the next line that passes the test, moved by some lines. -/
  | before (test : LineTest String) (offset : Int)
  /-- At the next line that begins with one of the texts and does not mention another one, which
  is the region's name unless given. -/
  | sibling (openings : List String) (exclude : Option String)
  /-- Behind the line in which the delimiters balance. -/
  | balanced (opening closing : String)
  /-- Behind the opening line. -/
  | singleLine
  deriving Repr, Inhabited

/-- A region, as a plan says it. -/
structure RegionSpec where
  name : String
  start : LineTest String
  ending : EndSpec
  companion : Option (LineTest String) := none
  multiplicity : Multiplicity := .first
  required : Bool := true
  action : Action := .delete
  deriving Repr, Inhabited

namespace RegionSpec

/-- A method: it opens where the signature is, and ends at the next member that begins with one
of the openings and does not mention the method. -/
def method (name signature : String) (openings : List String) : RegionSpec where
  name := name
  start := .contains signature
  ending := .sibling openings none

/-- With the line above, if it passes the test. -/
def withPreceding (spec : RegionSpec) (test : LineTest String) : RegionSpec :=
  { spec with companion := some test }

/-- As often as it occurs. -/
def allMatches (spec : RegionSpec) : RegionSpec :=
  { spec with multiplicity := .all }

/-- Where it occurs, if it does. -/
def optional (spec : RegionSpec) : RegionSpec :=
  { spec with required := false }

/-- With other lines in its place. -/
def replaceWith (spec : RegionSpec) (lines : List String) : RegionSpec :=
  { spec with action := .replace lines }

end RegionSpec

/-! ### What it means -/

/-- How the end of a region is found. -/
inductive Ending where
  | before (test : LineTest Pattern) (offset : Int)
  | sibling (openings : List String) (exclude : String)
  | balanced (opening closing : String)
  | singleLine
  deriving Repr, Inhabited

/-- A region whose tests have been understood. -/
structure Region where
  name : String
  start : LineTest Pattern
  ending : Ending
  companion : Option (LineTest Pattern)
  multiplicity : Multiplicity
  required : Bool
  action : Action
  deriving Repr, Inhabited

namespace Ending

/-- Whether a line is a declaration beside the region: it begins with one of the openings and
does not mention the excluded text. -/
def isSibling (openings : List String) (exclude : String) (line : String) : Bool :=
  openings.any (Text.opensWith line) && !Text.mentions line exclude

/-- Behind the first line after which the delimiters balance, one having been opened.  `index` is
that of the first line of the list. -/
def balancedAt (opening closing : String) (index : Nat) (depth : Int) (opened : Bool) :
    List String → Option Nat
  | [] => none
  | line :: rest =>
    let opens := Text.occurrences line opening
    let depth := depth + opens - Text.occurrences line closing
    let opened := opened || 0 < opens
    if opened && depth ≤ 0 then some (index + 1)
    else balancedAt opening closing (index + 1) depth opened rest

/-- The end of a region that opens at a line, before it is moved. -/
def find (ending : Ending) (lines : List String) (start : Nat) : Option Nat :=
  match ending with
  | before test _ => findFrom (test.holds ·) lines (start + 1)
  | sibling openings exclude => findFrom (isSibling openings exclude) lines (start + 1)
  | balanced opening closing => balancedAt opening closing start 0 false (lines.drop start)
  | singleLine => some (start + 1)

/-- By how many lines the end is moved. -/
def offset : Ending → Int
  | before _ offset => offset
  | _ => 0

end Ending

/-- Whether a line opens the region. -/
def Region.opens (region : Region) (line : String) : Bool :=
  region.start.holds line

/-! ### From the one to the other -/

/-- Where in a plan something of the region with the given index stands. -/
def regionKey (index : Nat) (field : String) : String :=
  "regions[" ++ toString index ++ "]." ++ field

namespace EndSpec

/-- Check a rule and fill in its defaults. -/
def compile (name : String) (index : Nat) : EndSpec → Except Fault Ending
  | before test offset =>
    (test.compile (regionKey index "end.matcher")).map fun ready => .before ready offset
  | sibling openings exclude =>
    if openings.isEmpty || openings.any Text.isBlank then
      .error (.invalidValue (regionKey index "end.prefixes") none
        "Sibling rule needs non-empty declaration prefixes")
    else if exclude.any Text.isBlank then
      .error (.invalidValue (regionKey index "end.exclude") exclude
        "Sibling exclude must not be empty; omit it to exclude the region name")
    else .ok (.sibling openings (exclude.getD name))
  | balanced opening closing =>
    if opening.isEmpty || closing.isEmpty || opening == closing then
      .error (.invalidValue (regionKey index "end") (some (opening ++ " / " ++ closing))
        "Balanced rule needs distinct, non-empty open and close delimiters")
    else .ok (.balanced opening closing)
  | singleLine => .ok .singleLine

end EndSpec

namespace RegionSpec

/-- Check a region and understand its tests.  The index is its place in the plan. -/
def compile (spec : RegionSpec) (index : Nat) : Except Fault Region :=
  if Text.isBlank spec.name then
    .error (.invalidValue (regionKey index "name") none "Region name must not be empty")
  else do
    let ending ← spec.ending.compile spec.name index
    let companion ← spec.companion.mapM (·.compile (regionKey index "also_remove_preceding_if"))
    let start ← spec.start.compile (regionKey index "start")
    return {
      name := spec.name
      start
      ending
      companion
      multiplicity := spec.multiplicity
      required := spec.required
      action := spec.action }

end RegionSpec

end LineCut
