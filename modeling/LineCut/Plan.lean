/-
Plans.

A plan is a list of regions, and their order is that of the reports.  A plan without regions does
nothing and is refused, and so is one that uses a name twice, since reports tell regions apart by
their names.
-/
import LineCut.Region

namespace LineCut

/-- The regions to look for, in order. -/
structure Plan where
  regions : List RegionSpec
  deriving Repr, Inhabited

namespace Plan

/-- The index and the name of the first region whose name an earlier one has. -/
def repeatedName (earlier : List String) : Nat → List RegionSpec → Option (Nat × String)
  | _, [] => none
  | index, spec :: rest =>
    if earlier.contains spec.name then some (index, spec.name)
    else repeatedName (spec.name :: earlier) (index + 1) rest

/-- Check regions in order, the first of which has the given index. -/
def compileFrom : Nat → List RegionSpec → Except Fault (List Region)
  | _, [] => .ok []
  | index, spec :: rest => do
    let region ← spec.compile index
    let regions ← compileFrom (index + 1) rest
    return region :: regions

/-- Check a plan and understand its regions. -/
def compile (plan : Plan) : Except Fault (List Region) :=
  if plan.regions.isEmpty then
    .error (.invalidValue "regions" none "Plan must contain at least one region")
  else
    match repeatedName [] 0 plan.regions with
    | some (index, name) =>
      .error (.invalidValue (regionKey index "name") (some name)
        "Region names must be unique within a plan")
    | none => compileFrom 0 plan.regions

end Plan

end LineCut
