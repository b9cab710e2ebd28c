/-
Finding regions.

A region is looked for from the top.  The first line that opens it decides where it ends; the line
above the opening one joins it if it passes the companion test and no earlier range of the region
has it.  A region that is looked for once is done then, and one that is looked for everywhere is
looked for again from where it ended, so its ranges come in order and never meet.

A plan is scanned region by region.  A required region that is missing is a fault, a missing
optional one has no ranges, and no range may claim a line that an earlier region's range has.
-/
import LineCut.Region

namespace LineCut

/-! ### One region -/

/-- The end of a region, moved by its offset.  It has to stay behind the opening line and must
not leave the text. -/
def Region.shiftEnd (region : Region) (start stop total : Nat) : Except Fault Nat :=
  let moved := (stop : Int) + region.ending.offset
  if moved ≤ start ∨ (total : Int) < moved then
    .error (.offsetOutside region.name region.ending.offset stop start)
  else .ok moved.toNat

/-- Where the range begins for a region that opens at `start`, when the lines before `cursor` are
taken. -/
def Region.rangeStart (region : Region) (lines : List String) (cursor start : Nat) : Nat :=
  if cursor < start && region.companion.any (fun test => (lines[start - 1]?).any (test.holds ·))
  then start - 1
  else start

/-- A moved end lies behind the opening line and among the lines. -/
theorem Region.bounds_of_shiftEnd {region : Region} {start stop total e : Nat}
    (h : region.shiftEnd start stop total = .ok e) : start < e ∧ e ≤ total := by
  simp only [shiftEnd] at h
  split at h
  · cases h
  · simp only [Except.ok.injEq] at h
    omega

/-- The ranges of a region in the lines from `cursor` on. -/
def scanFrom (lines : List String) (region : Region) (cursor : Nat) :
    Except Fault (List LineRange) :=
  match _hs : findFrom region.opens lines cursor with
  | none => .ok []
  | some start =>
    match region.ending.find lines start with
    | none => .error (.endNotFound region.name start lines.length)
    | some found =>
      match _he : region.shiftEnd start found lines.length with
      | .error fault => .error fault
      | .ok stop =>
        let range := ⟨region.name, region.rangeStart lines cursor start, stop⟩
        if region.multiplicity = .first then .ok [range]
        else
          match scanFrom lines region stop with
          | .error fault => .error fault
          | .ok ranges => .ok (range :: ranges)
termination_by lines.length - cursor
decreasing_by
  have h₁ := bounds_of_findFrom _hs
  have h₂ := Region.bounds_of_shiftEnd _he
  omega

/-- The ranges of a region, of which there has to be one. -/
def scanRegion (lines : List String) (region : Region) : Except Fault (List LineRange) :=
  match scanFrom lines region 0 with
  | .error fault => .error fault
  | .ok [] => .error (.startNotFound region.name lines.length)
  | .ok ranges => .ok ranges

/-! ### All regions of a plan -/

/-- What was found for a region. -/
structure RegionScan where
  name : String
  ranges : List LineRange
  deriving DecidableEq, Repr

/-- Whether anything was found. -/
def RegionScan.found (scan : RegionScan) : Bool :=
  !scan.ranges.isEmpty

/-- The ranges of a region, none if it is optional and missing. -/
def scanOptional (lines : List String) (region : Region) : Except Fault (List LineRange) :=
  match scanRegion lines region with
  | .error (.startNotFound name total) =>
    if region.required then .error (.startNotFound name total) else .ok []
  | outcome => outcome

/-- The first of the new ranges that overlaps an earlier one, with the first earlier one that it
overlaps; the earlier one comes first. -/
def clash (earlier ranges : List LineRange) : Option (LineRange × LineRange) :=
  ranges.findSome? fun range =>
    (earlier.find? (·.overlaps range)).map fun prior => (prior, range)

/-- Scan regions in order, when the earlier ones have the given ranges. -/
def scanAfter (lines : List String) (earlier : List LineRange) :
    List Region → Except Fault (List RegionScan)
  | [] => .ok []
  | region :: rest =>
    match scanOptional lines region with
    | .error fault => .error fault
    | .ok ranges =>
      match clash earlier ranges with
      | some (prior, range) => .error (.overlap prior range)
      | none =>
        match scanAfter lines (earlier ++ ranges) rest with
        | .error fault => .error fault
        | .ok scans => .ok (⟨region.name, ranges⟩ :: scans)

/-- Scan all regions in order. -/
def scanPlan (lines : List String) (regions : List Region) : Except Fault (List RegionScan) :=
  scanAfter lines [] regions

end LineCut
