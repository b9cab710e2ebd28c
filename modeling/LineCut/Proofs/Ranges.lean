/-
Ranges as sets of lines.

A range is two numbers, but what a plan promises about its ranges is about the lines they hold:
each range holds some, holds none beyond the last, and shares none with another range.  The
program compares numbers instead.  Scanning asks whether each of two ranges starts before the
other stops; editing sorts the ranges by their starts and looks at neighbours only.

Three relations are enough to go between the two.  `Within` says that a range holds lines and
which ones it may hold, `Apart` that two ranges have no line in common, and `Before` that one of
them stops where the other starts or earlier.  Apart and sorted by their starts is before, and
before is what every walk over ranges needs.
-/
import LineCut.LineRange

namespace LineCut.LineRange

/-- The range holds some lines, and only such as come before line `total`. -/
def Within (total : Nat) (r : LineRange) : Prop :=
  r.start < r.stop ∧ r.stop ≤ total

/-- No line is in both ranges. -/
def Apart (r s : LineRange) : Prop :=
  ∀ i, ¬ (r.Holds i ∧ s.Holds i)

/-- The one range stops before the other starts. -/
def Before (r s : LineRange) : Prop :=
  r.stop ≤ s.start

variable {r s : LineRange} {total : Nat}

theorem Apart.symm (h : r.Apart s) : s.Apart r :=
  fun i hi => h i hi.symm

theorem Before.apart (h : r.Before s) : r.Apart s := by
  rintro i ⟨⟨-, hr⟩, ⟨hs, -⟩⟩
  unfold Before at h
  omega

/-- Ranges that hold lines and do not overlap have no line in common. -/
theorem apart_iff_overlaps (hr : r.Within total) (hs : s.Within total) :
    r.Apart s ↔ r.overlaps s = false := by
  have h := overlaps_iff hr.1 hs.1
  constructor
  · intro hapart
    rw [Bool.eq_false_iff]
    intro hover
    obtain ⟨i, hi⟩ := h.mp hover
    exact hapart i hi
  · intro hover i hi
    rw [h.mpr ⟨i, hi⟩] at hover
    cases hover

/-- Of two ranges without a common line the one that starts first stops before the other. -/
theorem Apart.before (h : r.Apart s) (hs : s.Within total)
    (hle : r.start ≤ s.start) : r.Before s := by
  have hs' := hs.1
  have := h s.start
  simp only [Holds] at this
  unfold Before
  omega

/-- A range that holds lines holds the one it starts at. -/
theorem Within.holds_start (h : r.Within total) : r.Holds r.start :=
  ⟨Nat.le_refl _, h.1⟩

/-- How many lines ranges have together does not depend on their order. -/
theorem totalLength_perm {ranges other : List LineRange} (h : other.Perm ranges) :
    totalLength other = totalLength ranges := by
  induction h with
  | nil => rfl
  | cons range _ ih => rw [totalLength, totalLength, ih]
  | swap r s rest =>
      simp only [totalLength]
      omega
  | trans _ _ ihfirst ihsecond => rw [ihfirst, ihsecond]

end LineCut.LineRange
