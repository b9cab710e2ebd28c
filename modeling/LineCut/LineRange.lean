/-
A run of lines.

Lines are counted from zero, and a range holds the line it starts at but not the one it stops at.
It carries the name of the region it was found for, since every report about it says so.
-/

namespace LineCut

/-- The lines from `start` up to but not including `stop`, found for the region `name`. -/
structure LineRange where
  name : String
  start : Nat
  stop : Nat
  deriving DecidableEq, Repr

namespace LineRange

/-- How many lines the range holds. -/
def length (r : LineRange) : Nat :=
  r.stop - r.start

/-- How many lines ranges hold, each counted by itself. -/
def totalLength : List LineRange → Nat
  | [] => 0
  | r :: rest => r.length + totalLength rest

/-- Whether it starts where it stops. -/
def isEmpty (r : LineRange) : Bool :=
  r.stop == r.start

/-- Whether each of two ranges starts before the other stops. -/
def overlaps (r s : LineRange) : Bool :=
  r.start < s.stop && s.start < r.stop

/-- Line `i` is in the range. -/
def Holds (r : LineRange) (i : Nat) : Prop :=
  r.start ≤ i ∧ i < r.stop

instance (r : LineRange) (i : Nat) : Decidable (r.Holds i) :=
  inferInstanceAs (Decidable (_ ∧ _))

theorem overlaps_comm (r s : LineRange) : r.overlaps s = s.overlaps r := by
  simp [overlaps, Bool.and_comm]

/-- Two ranges that hold lines overlap exactly when some line is in both. -/
theorem overlaps_iff {r s : LineRange} (hr : r.start < r.stop) (hs : s.start < s.stop) :
    r.overlaps s = true ↔ ∃ i, r.Holds i ∧ s.Holds i := by
  simp only [overlaps, Bool.and_eq_true, decide_eq_true_eq, Holds]
  constructor
  · rintro ⟨h₁, h₂⟩
    exact ⟨max r.start s.start, by omega, by omega⟩
  · rintro ⟨i, h₁, h₂⟩
    omega

end LineRange

end LineCut
