/-
What is told about a run.

Both reports list every region with its ranges.  Each range is given twice: by the numbers of its
first and last line as people count them, and by its indices.  The report on a plan that was
carried out also says how the text changed and whether the file did.
-/
import LineCut.Revision
import LineCut.Json.Value

namespace LineCut

/-- One range: its first and last line, counted from one, its indices, and how many lines it
has. -/
structure RangeReport where
  startLine : Nat
  endLine : Nat
  startIndex : Nat
  endIndex : Nat
  lines : Nat
  deriving DecidableEq, Repr

/-- One region, with what was found for it. -/
structure RegionReport where
  name : String
  found : Bool
  ranges : List RangeReport
  removed : Nat
  inserted : Nat
  deriving DecidableEq, Repr

/-- What a plan would touch. -/
structure ScanReport where
  file : String
  totalLines : Nat
  regions : List RegionReport
  deriving DecidableEq, Repr

/-- What a plan has done, or would do. -/
structure ApplyReport where
  file : String
  ending : Terminator
  oldLines : Nat
  newLines : Nat
  removed : Nat
  inserted : Nat
  regions : List RegionReport
  dryRun : Bool
  applied : Bool
  deriving DecidableEq, Repr

/-- The report on a range. -/
def RangeReport.of (range : LineRange) : RangeReport where
  startLine := range.start + 1
  endLine := range.stop
  startIndex := range.start
  endIndex := range.stop
  lines := range.length

/-- The report on a region. -/
def RegionReport.of (region : Region) (scan : RegionScan) : RegionReport where
  name := scan.name
  found := scan.found
  ranges := scan.ranges.map .of
  removed := LineRange.totalLength scan.ranges
  inserted := region.action.insertion.length * scan.ranges.length

/-- The reports on all regions. -/
def regionReports (regions : List Region) (scans : List RegionScan) : List RegionReport :=
  (regions.zip scans).map fun (region, scan) => .of region scan

/-- How many of the regions were found. -/
def foundCount (reports : List RegionReport) : Nat :=
  reports.countP (·.found)

/-- How many regions a plan found. -/
def ScanReport.regionsFound (report : ScanReport) : Nat :=
  foundCount report.regions

/-- How many regions a plan found. -/
def ApplyReport.regionsFound (report : ApplyReport) : Nat :=
  foundCount report.regions

/-- How many lines there are more than before. -/
def ApplyReport.delta (report : ApplyReport) : Int :=
  (report.newLines : Int) - report.oldLines

/-! ### As JSON -/

/-- The members of a range's report. -/
def RangeReport.toJson (r : RangeReport) : Json :=
  .obj [("start_line", .nat r.startLine), ("end_line", .nat r.endLine),
    ("start_index", .nat r.startIndex), ("end_index", .nat r.endIndex), ("lines", .nat r.lines)]

/-- The members of a region's report. -/
def RegionReport.toJson (r : RegionReport) : Json :=
  .obj [("name", .str r.name), ("found", .bool r.found),
    ("ranges", .arr (r.ranges.map RangeReport.toJson)), ("lines_removed", .nat r.removed),
    ("lines_inserted", .nat r.inserted)]

/-- The members of the report on what a plan would touch. -/
def ScanReport.members (r : ScanReport) : List (String × Json) :=
  [("file", .str r.file), ("total_lines", .nat r.totalLines),
    ("regions_found", .nat r.regionsFound), ("regions", .arr (r.regions.map RegionReport.toJson))]

/-- The members of the report on what a plan has done. -/
def ApplyReport.members (r : ApplyReport) : List (String × Json) :=
  [("file", .str r.file), ("line_ending", .str r.ending.name),
    ("original_lines", .nat r.oldLines), ("new_lines", .nat r.newLines), ("delta", .int r.delta),
    ("lines_removed", .nat r.removed), ("lines_inserted", .nat r.inserted),
    ("regions_found", .nat r.regionsFound), ("regions", .arr (r.regions.map RegionReport.toJson)),
    ("dry_run", .bool r.dryRun), ("applied", .bool r.applied)]

end LineCut
