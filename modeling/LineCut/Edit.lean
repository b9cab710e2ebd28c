/-
Editing lines.

An edit is a range and what becomes of its lines.  A set of edits speaks of the lines as they are
before any of it is done, so the edits may come in any order, and one pass from the top carries
them all out.  For that no two of them may share a line, and none may be empty or reach beyond
the last line.
-/
import LineCut.Scan

namespace LineCut

/-- A range and what becomes of it. -/
structure Edit where
  range : LineRange
  action : Action
  deriving DecidableEq, Repr

/-- How many lines an edit puts in. -/
def Edit.inserted (edit : Edit) : Nat :=
  edit.action.insertion.length

/-- How many lines a set of edits takes out and puts in. -/
structure EditStats where
  removed : Nat
  inserted : Nat
  deriving DecidableEq, Repr

namespace Edit

/-- The order of the edits in the text: by where they start, then by where they stop. -/
def atMost (e f : Edit) : Bool :=
  e.range.start < f.range.start ||
    (e.range.start == f.range.start && e.range.stop ≤ f.range.stop)

/-- Whether an edit is about some lines, and only about lines that are there. -/
def fits (total : Nat) (edit : Edit) : Bool :=
  edit.range.start < edit.range.stop && edit.range.stop ≤ total

/-- The first pair of neighbours that overlap. -/
def neighboursClash : List Edit → Option (Edit × Edit)
  | e :: f :: rest => if e.range.overlaps f.range then some (e, f) else neighboursClash (f :: rest)
  | _ => none

/-- The edits in the order of the text, if they can be carried out together. -/
def ordered (total : Nat) (edits : List Edit) : Except Fault (List Edit) :=
  match edits.find? fun edit => !edit.fits total with
  | some edit => .error (.badRange edit.range total)
  | none =>
    let sorted := edits.mergeSort atMost
    match neighboursClash sorted with
    | some (e, f) => .error (.overlap e.range f.range)
    | none => .ok sorted

/-- The lines from index `cursor` on, with edits carried out that come in the order of the
text. -/
def splice (cursor : Nat) (lines : List String) : List Edit → List String
  | [] => lines
  | edit :: rest =>
    lines.take (edit.range.start - cursor) ++ edit.action.insertion ++
      splice edit.range.stop (lines.drop (edit.range.stop - cursor)) rest

/-- What a set of edits takes out and puts in. -/
def stats (edits : List Edit) : EditStats where
  removed := LineRange.totalLength (edits.map (·.range))
  inserted := (edits.flatMap (·.action.insertion)).length

end Edit

/-- Carry out edits all at once. -/
def applyEdits (lines : List String) (edits : List Edit) :
    Except Fault (List String × EditStats) :=
  match Edit.ordered lines.length edits with
  | .error fault => .error fault
  | .ok sorted => .ok (Edit.splice 0 lines sorted, Edit.stats sorted)

/-- The edits that a plan asks for, given what was found for each of its regions. -/
def editsOf (regions : List Region) (scans : List RegionScan) : List Edit :=
  (regions.zip scans).flatMap fun (region, scan) =>
    scan.ranges.map fun range => ⟨range, region.action⟩

end LineCut
