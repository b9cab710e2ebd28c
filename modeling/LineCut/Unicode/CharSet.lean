/-
Sets of characters as ranges of code points.

A set is a row of closed ranges, sorted, with a gap between each two.  That form is unique, so a
set has one representation, membership is a binary search, and the complement is read off the
gaps.  Everything else is built from union and complement.

The universe is all code points.  Whether the surrogates are in a set never shows, since no text
holds one.
-/

namespace LineCut.Unicode

/-- The largest code point. -/
def lastCode : Nat := 0x10FFFF

/-- Closed ranges of code points, from low to high, no two of which meet or touch. -/
structure CharSet where
  ranges : Array (Nat × Nat)
  deriving Inhabited, DecidableEq, Repr

namespace CharSet

/-- No character. -/
def empty : CharSet := ⟨#[]⟩

/-- Merge each range into the last one taken when the two meet or touch.  The ranges taken so
far come last first. -/
def merge : List (Nat × Nat) → List (Nat × Nat) → List (Nat × Nat)
  | taken, [] => taken.reverse
  | [], r :: rest => merge [r] rest
  | (low, high) :: taken, (a, b) :: rest =>
    if a ≤ high + 1 then merge ((low, max high b) :: taken) rest
    else merge ((a, b) :: (low, high) :: taken) rest

/-- The set of the code points in any of the given ranges. -/
def ofRanges (ranges : List (Nat × Nat)) : CharSet :=
  ⟨(merge [] (ranges.mergeSort fun r s => r.1 ≤ s.1)).toArray⟩

/-- The code points from `low` to `high`. -/
def interval (low high : Nat) : CharSet :=
  ⟨#[(low, high)]⟩

/-- One character alone. -/
def single (c : Char) : CharSet :=
  interval c.toNat c.toNat

/-- Look for a code point among the ranges with indices from `low` up to but not including
`high`. -/
def search (ranges : Array (Nat × Nat)) (code low high : Nat) : Bool :=
  if low < high then
    let mid := (low + high) / 2
    match ranges[mid]? with
    | none => false
    | some (a, b) =>
      if code < a then search ranges code low mid
      else if b < code then search ranges code (mid + 1) high
      else true
  else false
termination_by high - low

/-- Whether a code point is in the set. -/
def hasCode (set : CharSet) (code : Nat) : Bool :=
  search set.ranges code 0 set.ranges.size

/-- Whether a character is in the set. -/
def contains (set : CharSet) (c : Char) : Bool :=
  set.hasCode c.toNat

/-- What is in either set. -/
def union (s t : CharSet) : CharSet :=
  ofRanges (s.ranges.toList ++ t.ranges.toList)

/-- What lies between the given ranges, from `next` on. -/
def gaps (next : Nat) : List (Nat × Nat) → List (Nat × Nat)
  | [] => if next ≤ lastCode then [(next, lastCode)] else []
  | (a, b) :: rest => if next < a then (next, a - 1) :: gaps (b + 1) rest else gaps (b + 1) rest

/-- What is not in the set. -/
def complement (set : CharSet) : CharSet :=
  ⟨(gaps 0 set.ranges.toList).toArray⟩

/-- What is in both sets. -/
def inter (s t : CharSet) : CharSet :=
  (s.complement.union t.complement).complement

/-- What is in the first set and not in the second. -/
def diff (s t : CharSet) : CharSet :=
  s.inter t.complement

/-- What is in one of the sets and not in both. -/
def symmDiff (s t : CharSet) : CharSet :=
  (s.diff t).union (t.diff s)

/-- Whether every character of the set is an ASCII one. -/
def isAscii (set : CharSet) : Bool :=
  set.ranges.all fun (_, high) => high < 0x80

end CharSet

end LineCut.Unicode
