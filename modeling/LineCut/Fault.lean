/-
Everything that can go wrong.

A fault is a cause with the facts that belong to it.  What is said about it is worked out here and
nowhere else: its code, its message, the details a caller can read by key, and a hint where there
is something to be done.

The codes fall into families, and the family decides how a program that meets the fault exits.
Faults of the family `region` mean that the text did not have the shape the plan speaks of; the
text is then left as it was.
-/
import LineCut.LineRange
import LineCut.Json.Value

namespace LineCut

/-- What a fault is about. -/
inductive Family where
  | config
  | validation
  | region
  | internal
  deriving DecidableEq, Repr

/-- The first half of a code. -/
def Family.name : Family → String
  | config => "config"
  | validation => "validation"
  | region => "region"
  | internal => "internal"

/-- A cause, with the facts that belong to it. -/
inductive Fault where
  /-- A value in a plan that cannot be used. -/
  | invalidValue (key : String) (value : Option String) (problem : String)
  /-- An argument that cannot be used. -/
  | invalidArgument (field problem : String)
  /-- A text that is no plan. -/
  | invalidJson (error context excerpt : String)
  /-- No line opens the region. -/
  | startNotFound (region : String) (total : Nat)
  /-- A line opens the region and none ends it. -/
  | endNotFound (region : String) (start total : Nat)
  /-- Two ranges claim the same line. -/
  | overlap (first second : LineRange)
  /-- A range that is none, or that leaves the text. -/
  | invalidBoundary (region problem : String)
  /-- A line that opens the region is still there after its removal. -/
  | residualMatch (region : String) (line : Nat)
  /-- A file could not be read or written. -/
  | io (error : String) (context : Option String)
  /-- A value could not be written as JSON. -/
  | json (error : String) (context : Option String)
  deriving DecidableEq, Repr

namespace Fault

/-- The family of a fault. -/
def family : Fault → Family
  | invalidValue .. => .config
  | invalidArgument .. | invalidJson .. => .validation
  | startNotFound .. | endNotFound .. | overlap .. | invalidBoundary .. | residualMatch .. =>
    .region
  | io .. | json .. => .internal

/-- The second half of its code. -/
def kind : Fault → String
  | invalidValue .. => "invalid_value"
  | invalidArgument .. => "invalid_argument"
  | invalidJson .. => "invalid_json"
  | startNotFound .. => "start_not_found"
  | endNotFound .. => "end_not_found"
  | overlap .. => "overlapping_ranges"
  | invalidBoundary .. => "invalid_boundary"
  | residualMatch .. => "residual_match"
  | io .. => "io_error"
  | json .. => "json_error"

/-- The code of a fault. -/
def code (fault : Fault) : String :=
  fault.family.name ++ "." ++ fault.kind

/-- Whether the text did not have the shape the plan speaks of. -/
def isBoundary (fault : Fault) : Bool :=
  fault.family == .region

/-- A range as messages show it. -/
def showRange (start stop : Nat) : String :=
  "[" ++ toString start ++ ", " ++ toString stop ++ ")"

/-- What happened, in words.  Lines are counted from one here. -/
def message : Fault → String
  | invalidValue .. => "Invalid configuration value"
  | invalidArgument .. => "Invalid argument"
  | invalidJson .. => "Invalid JSON"
  | startNotFound region _ => "Start of region '" ++ region ++ "' not found"
  | endNotFound region start _ =>
    "End of region '" ++ region ++ "' (opened at line " ++ toString (start + 1) ++
      ") not found before end of input"
  | overlap first second =>
    "Regions '" ++ first.name ++ "' " ++ showRange first.start first.stop ++ " and '" ++
      second.name ++ "' " ++ showRange second.start second.stop ++ " overlap"
  | invalidBoundary region _ => "Region '" ++ region ++ "' resolved to an invalid range"
  | residualMatch region line =>
    "Region '" ++ region ++ "' still matches at line " ++ toString (line + 1) ++
      " after removal"
  | io .. => "IO error"
  | json .. => "JSON error"

/-- The facts, by key. -/
def details : Fault → Json
  | invalidValue key value problem =>
    .present [some ("key", .str key), value.map fun v => ("value", .str v),
      some ("problem", .str problem)]
  | invalidArgument field problem => .obj [("field", .str field), ("problem", .str problem)]
  | invalidJson error context excerpt =>
    .obj [("error", .str error), ("context", .str context), ("excerpt", .str excerpt)]
  | startNotFound region total => .obj [("region", .str region), ("totalLines", .nat total)]
  | endNotFound region start total =>
    .obj [("region", .str region), ("startLine", .nat (start + 1)), ("totalLines", .nat total)]
  | overlap first second =>
    .obj [("first", .str first.name),
      ("firstRange", .arr [.nat first.start, .nat first.stop]),
      ("second", .str second.name),
      ("secondRange", .arr [.nat second.start, .nat second.stop])]
  | invalidBoundary region problem =>
    .obj [("region", .str region), ("problem", .str problem)]
  | residualMatch region line => .obj [("region", .str region), ("line", .nat (line + 1))]
  | io error context | json error context =>
    .present [some ("error", .str error), context.map fun c => ("context", .str c)]

/-- What can be done about it. -/
def hints : Fault → List String
  | startNotFound .. =>
    ["Set \"required\": false on the region to treat a missing construct as a no-op"]
  | endNotFound .. =>
    ["The file was left untouched; tighten or correct the region's end rule"]
  | residualMatch .. =>
    ["Use \"multiplicity\": \"all\" if the construct occurs more than once"]
  | _ => []

/-! ### Problems in words

A range can be wrong in two ways, and each has one wording.
-/

/-- The end of a region was moved to where no region can end. -/
def offsetOutside (region : String) (offset : Int) (stop start : Nat) : Fault :=
  .invalidBoundary region
    ("End offset " ++ toString offset ++ " moves the end (line " ++ toString (stop + 1) ++
      ") outside the region opened at line " ++ toString (start + 1))

/-- A range without lines, or beyond the last line. -/
def badRange (range : LineRange) (total : Nat) : Fault :=
  .invalidBoundary range.name
    ("Range " ++ showRange range.start range.stop ++ " is empty or exceeds " ++
      toString total ++ " lines")

end Fault

end LineCut
