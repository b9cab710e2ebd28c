/-
Plans on files.

A plan is checked before its file is read, and the file is replaced only when everything else has
succeeded, only when that was asked for, and only if the document has changed.
-/
import LineCut.Disk.Files
import LineCut.Plan
import LineCut.Report

namespace LineCut

variable {m : Type → Type} [Monad m]

/-- The document in a file, and the regions to look for in it. -/
def load (disk : Disk m) (path : String) (plan : Plan) :
    m (Except Fault (Document × List Region)) := do
  match plan.compile with
  | .error fault => return .error fault
  | .ok regions =>
    match ← disk.readText path ("read " ++ path) with
    | .error fault => return .error fault
    | .ok text => return .ok (.parse text, regions)

/-- What a plan would touch in a file. -/
def scanFile (disk : Disk m) (path : String) (plan : Plan) : m (Except Fault ScanReport) := do
  match ← load disk path plan with
  | .error fault => return .error fault
  | .ok (doc, regions) =>
    match scanPlan doc.lines regions with
    | .error fault => return .error fault
    | .ok scans =>
      return .ok {
        file := path
        totalLines := doc.lines.length
        regions := regionReports regions scans }

/-- The report on a revision of the document in a file. -/
def applyReport (path : String) (doc : Document) (regions : List Region) (revision : Revision)
    (write applied : Bool) : ApplyReport where
  file := path
  ending := doc.ending
  oldLines := doc.lines.length
  newLines := revision.output.lines.length
  removed := revision.stats.removed
  inserted := revision.stats.inserted
  regions := regionReports regions revision.scans
  dryRun := !write
  applied := applied

/-- Carry out a plan on a file.  Without `write` the file stays as it is. -/
def applyFile (disk : Disk m) (path : String) (plan : Plan) (write : Bool) :
    m (Except Fault ApplyReport) := do
  match ← load disk path plan with
  | .error fault => return .error fault
  | .ok (doc, regions) =>
    match doc.revise regions with
    | .error fault => return .error fault
    | .ok revision =>
      if write && revision.output != doc then
        match ← disk.replaceText path revision.output.render ("write " ++ path) with
        | .error fault => return .error fault
        | .ok () => return .ok (applyReport path doc regions revision write true)
      else return .ok (applyReport path doc regions revision write false)

end LineCut
