/-
Carrying out a plan on a document.

The regions are found, the edits made, and then every region that was to be deleted is looked for
again.  A line that still opens it means that the plan did not say what its author meant, and
then nothing of the result is used.
-/
import LineCut.Document
import LineCut.Edit

namespace LineCut

/-- A document with a plan carried out on it. -/
structure Revision where
  scans : List RegionScan
  output : Document
  stats : EditStats
  deriving DecidableEq, Repr

/-- The first region, in order, that was found and deleted and is still opened by a line. -/
def residual (output : List String) : List Region → List RegionScan → Option (String × Nat)
  | region :: regions, scan :: scans =>
    if scan.found && region.action == .delete then
      match findFrom region.opens output 0 with
      | some line => some (region.name, line)
      | none => residual output regions scans
    else residual output regions scans
  | _, _ => none

/-- Every region that was found and deleted is gone. -/
def verifyRemoved (output : List String) (regions : List Region) (scans : List RegionScan) :
    Except Fault Unit :=
  match residual output regions scans with
  | some (name, line) => .error (.residualMatch name line)
  | none => .ok ()

/-- Carry out a plan on a document. -/
def Document.revise (doc : Document) (regions : List Region) : Except Fault Revision :=
  match scanPlan doc.lines regions with
  | .error fault => .error fault
  | .ok scans =>
    match applyEdits doc.lines (editsOf regions scans) with
    | .error fault => .error fault
    | .ok (lines, stats) =>
      match verifyRemoved lines regions scans with
      | .error fault => .error fault
      | .ok () => .ok ⟨scans, doc.withLines lines, stats⟩

end LineCut
