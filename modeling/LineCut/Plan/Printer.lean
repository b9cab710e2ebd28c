/-
Plans as JSON.

A part that has its default value and may be missing is left out: no companion, no excluded text,
no offset.  The other defaults are written.
-/
import LineCut.Plan
import LineCut.Json.Printer

namespace LineCut

namespace LineTest

mutual

/-- A test, whose patterns are given by their texts. -/
def toJson {π : Type} (source : π → String) : LineTest π → Json
  | contains text => .obj [("contains", .str text)]
  | startsWith text => .obj [("starts_with", .str text)]
  | pattern p => .obj [("pattern", .str (source p))]
  | blank => .str "blank"
  | any tests => .obj [("any", .arr (toJsonAll source tests))]
  | all tests => .obj [("all", .arr (toJsonAll source tests))]
  | negation test => .obj [("not", toJson source test)]
termination_by structural test => test

/-- Tests in order. -/
def toJsonAll {π : Type} (source : π → String) : List (LineTest π) → List Json
  | [] => []
  | test :: rest => toJson source test :: toJsonAll source rest
termination_by structural tests => tests

end

end LineTest

/-- How often. -/
def Multiplicity.name : Multiplicity → String
  | first => "first"
  | all => "all"

/-- What becomes of the lines. -/
def Action.toJson : Action → Json
  | delete => .str "delete"
  | replace lines => .obj [("replace", .strings lines)]

/-- A rule, under its name. -/
def EndSpec.toJson : EndSpec → Json
  | before test offset =>
    .present [some ("rule", .str "before"), some ("matcher", test.toJson id),
      if offset = 0 then none else some ("offset", .int offset)]
  | sibling openings exclude =>
    .present [some ("rule", .str "sibling"), some ("prefixes", .strings openings),
      exclude.map fun text => ("exclude", .str text)]
  | balanced opening closing =>
    .obj [("rule", .str "balanced"), ("open", .str opening), ("close", .str closing)]
  | singleLine => .obj [("rule", .str "single_line")]

/-- A region. -/
def RegionSpec.toJson (spec : RegionSpec) : Json :=
  .present [some ("name", .str spec.name),
    some ("start", spec.start.toJson id),
    some ("end", spec.ending.toJson),
    spec.companion.map fun test => ("also_remove_preceding_if", test.toJson id),
    some ("multiplicity", .str spec.multiplicity.name),
    some ("required", .bool spec.required),
    some ("action", spec.action.toJson)]

/-- The regions of a plan, without the plan around them. -/
def Plan.regionsJson (plan : Plan) : Json :=
  .arr (plan.regions.map RegionSpec.toJson)

/-- A plan. -/
def Plan.toJson (plan : Plan) : Json :=
  .obj [("regions", plan.regionsJson)]

/-- A plan as a text. -/
def Plan.print (plan : Plan) : String :=
  plan.toJson.print

end LineCut
