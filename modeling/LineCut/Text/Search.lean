/-
Looking for one text inside another.

Everything here is a question about lists of characters: does a text begin with a given one,
does it hold it anywhere, and how often without overlaps.  The last is what depth counting uses,
and it looks from the left, resuming after each occurrence it has taken.
-/
import LineCut.Text.Blank

namespace LineCut.Text

/-- Somewhere in `text` there is a copy of `part`. -/
def holds (part : List Char) : List Char → Bool
  | [] => part.isEmpty
  | c :: rest => part.isPrefixOf (c :: rest) || holds part rest

/-- How many copies of `part` can be taken from `text`, from the left and without overlaps.  One
without characters is taken at every place, and there is one more of these than characters. -/
def count (part : List Char) : List Char → Nat
  | [] => if part.isEmpty then 1 else 0
  | c :: rest =>
    if part.isPrefixOf (c :: rest) then
      count part (rest.drop (part.length - 1)) + 1
    else
      count part rest
termination_by text => text.length
decreasing_by
  · simp only [List.length_drop, List.length_cons]; omega
  · simp

/-- A line mentions `part` anywhere. -/
def mentions (line part : String) : Bool :=
  holds part.toList line.toList

/-- A line begins with `part`, its indentation aside. -/
def opensWith (line part : String) : Bool :=
  part.toList.isPrefixOf (trimStart line.toList)

/-- How often `part` occurs in a line, from the left and without overlaps. -/
def occurrences (line part : String) : Nat :=
  count part.toList line.toList

/-- Holding a part is having it as a contiguous piece. -/
theorem holds_iff {part text : List Char} : holds part text = true ↔ part <:+: text := by
  induction text with
  | nil => simp [holds]
  | cons c rest ih =>
    rw [holds, Bool.or_eq_true, ih, List.infix_cons_iff, List.isPrefixOf_iff_prefix]

/-- A part is counted at least once exactly where the text holds it. -/
theorem count_pos_iff {part text : List Char} (h : part ≠ []) :
    0 < count part text ↔ holds part text = true := by
  induction text with
  | nil => simp [count, holds, h]
  | cons c rest ih =>
    rw [count, holds]
    split
    · next hp => simp [hp]
    · next hp => simp [hp, ih]

end LineCut.Text
