/-
Where a range begins and where it ends.

Both ends of a range are first lines of some kind.  The opening line is the first behind the range
before it that opens the region, and the range starts there or one line earlier; its end is the
first line behind the opening one that the rule is looking for, moved by the offset if there is one.
So a range is as small as its description allows, and no two numbers but these fit it.

What is easy to get wrong here is by one line: the rule starts to look one line behind the opening
line and not at it, the line that ends a region is not in its range, and the companion counts only
if it stands behind the range before, which is why the cursor has to be known and not just the
opening line.
-/
import LineCut.Proofs.Coverage

namespace LineCut

variable {lines : List String} {region : Region} {cursor : Nat}

/-- Line `i` is the first from `start` on that passes. -/
structure First (passes : String → Prop) (lines : List String) (start i : Nat) : Prop where
  /-- It does not come before the start. -/
  start_le : start ≤ i
  /-- It is there, and passes. -/
  found : ∃ line, lines[i]? = some line ∧ passes line
  /-- The lines between the start and it do not. -/
  earlier : ∀ j, start ≤ j → j < i → ∀ line, lines[j]? = some line → ¬ passes line

theorem First.lt_length {passes : String → Prop} {start i : Nat} (h : First passes lines start i) :
    i < lines.length := by
  obtain ⟨line, hline, -⟩ := h.found
  exact (List.getElem?_eq_some_iff.mp hline).1

/-- **What is found is the first line**, whichever way passing is said. -/
theorem findFrom_eq_some_iff_first {test : String → Bool} {passes : String → Prop}
    (htest : ∀ line, test line = true ↔ passes line) {start i : Nat} :
    findFrom test lines start = some i ↔ First passes lines start i := by
  have hfails : ∀ line, test line = false ↔ ¬ passes line := fun line => by
    rw [← htest, Bool.not_eq_true]
  rw [findFrom_eq_some_iff]
  simp only [htest, hfails]
  exact ⟨fun h => ⟨h.1, h.2.1, h.2.2⟩, fun h => ⟨h.start_le, h.found, h.earlier⟩⟩

/-! ### Where a range begins -/

/-- The line above the opening one joins the range: it is not taken, and passes the companion
test. -/
def CompanionAt (lines : List String) (region : Region) (cursor opening : Nat) : Prop :=
  cursor < opening ∧ ∃ test line, region.companion = some test ∧
    lines[opening - 1]? = some line ∧ test.holds line = true

theorem Region.rangeStart_of_companionAt {opening : Nat}
    (h : CompanionAt lines region cursor opening) :
    region.rangeStart lines cursor opening = opening - 1 := by
  obtain ⟨hlt, test, line, htest, hline, hholds⟩ := h
  simp [rangeStart, hlt, htest, hline, hholds]

theorem Region.rangeStart_of_not_companionAt {opening : Nat}
    (h : ¬ CompanionAt lines region cursor opening) :
    region.rangeStart lines cursor opening = opening := by
  unfold rangeStart
  split
  · next hcond =>
      simp only [Bool.and_eq_true, decide_eq_true_eq, Option.any_eq_true] at hcond
      obtain ⟨hlt, test, htest, line, hline, hholds⟩ := hcond
      exact absurd ⟨hlt, test, line, htest, hline, hholds⟩ h
  · rfl

/-! ### Where a range ends -/

/-- A declaration beside the region: it begins with one of the texts, its indentation aside, and
the excluded text is nowhere in it. -/
def IsSibling (openings : List String) (exclude line : String) : Prop :=
  (∃ opening ∈ openings, opening.toList <+: Text.trimStart line.toList) ∧
    ¬ exclude.toList <:+: line.toList

theorem isSibling_iff {openings : List String} {exclude line : String} :
    Ending.isSibling openings exclude line = true ↔ IsSibling openings exclude line := by
  simp only [Ending.isSibling, IsSibling, Bool.and_eq_true, Bool.not_eq_true', List.any_eq_true,
    Text.opensWith, List.isPrefixOf_iff_prefix, Text.mentions, ← Text.holds_iff, Bool.not_eq_true]

/-- An end that is moved is moved by the offset, neither more nor less. -/
theorem Region.eq_of_shiftEnd {start stop total e : Nat}
    (h : region.shiftEnd start stop total = .ok e) : (e : Int) = stop + region.ending.offset := by
  simp only [shiftEnd] at h
  split at h
  · cases h
  · simp only [Except.ok.injEq] at h
    omega

namespace Round

variable {range : LineRange} {opening : Nat}

/-- A range that ends at a sibling ends at the first one behind its opening line. -/
theorem first_sibling (h : Round lines region cursor range opening) {openings : List String}
    {exclude : String} (hrule : region.ending = .sibling openings exclude) :
    First (IsSibling openings exclude) lines (opening + 1) range.stop := by
  obtain ⟨found, hfound, hstop⟩ := h.ended
  have heq := Region.eq_of_shiftEnd hstop
  simp only [hrule, Ending.find, Ending.offset, Int.add_zero, Int.natCast_inj] at hfound heq
  rw [heq]
  exact (findFrom_eq_some_iff_first fun _ => isSibling_iff).mp hfound

/-- A range that ends before a line ends where the offset puts the first such line. -/
theorem first_before (h : Round lines region cursor range opening) {test : LineTest Pattern}
    {offset : Int} (hrule : region.ending = .before test offset) :
    ∃ found : Nat, (found : Int) = range.stop - offset ∧
      First (test.holds · = true) lines (opening + 1) found := by
  obtain ⟨found, hfound, hstop⟩ := h.ended
  have heq := Region.eq_of_shiftEnd hstop
  simp only [hrule, Ending.find, Ending.offset] at hfound heq
  exact ⟨found, by omega, (findFrom_eq_some_iff_first fun _ => Iff.rfl).mp hfound⟩

/-- A range of a single line ends behind its opening line. -/
theorem stop_of_singleLine (h : Round lines region cursor range opening)
    (hrule : region.ending = .singleLine) : range.stop = opening + 1 := by
  obtain ⟨found, hfound, hstop⟩ := h.ended
  have heq := Region.eq_of_shiftEnd hstop
  simp only [hrule, Ending.find, Ending.offset, Option.some.injEq] at hfound heq
  omega

end Round

/--
**Boundaries are tight.**  Of every range that was found there is an opening line, the first one
that opens the region behind the range before.  The range starts at the line above it if that joins
the range, and otherwise at the opening line.  Under the sibling rule it ends at the first sibling
behind the opening line; under the rule that looks for a line, at the first such line behind the
opening one, moved by the offset; and under the rule for single lines behind the opening line.
-/
theorem scanRegion_tight {lines : List String} {region : Region} {ranges : List LineRange}
    (h : scanRegion lines region = .ok ranges) :
    ∀ before range after, ranges = before ++ range :: after →
      ∃ opening, First (region.opens · = true) lines (lastStop 0 before) opening ∧
        opening < range.stop ∧
        (CompanionAt lines region (lastStop 0 before) opening → range.start = opening - 1) ∧
        (¬ CompanionAt lines region (lastStop 0 before) opening → range.start = opening) ∧
        (∀ openings exclude, region.ending = .sibling openings exclude →
          First (IsSibling openings exclude) lines (opening + 1) range.stop) ∧
        (∀ test offset, region.ending = .before test offset →
          ∃ found : Nat, (found : Int) = range.stop - offset ∧ found < lines.length ∧
            First (test.holds · = true) lines (opening + 1) found) ∧
        (region.ending = .singleLine → range.stop = opening + 1) := by
  intro before range after hsplit
  obtain ⟨opening, hround⟩ := (search_of_scanRegion h).1.round_of_append hsplit
  refine ⟨opening, (findFrom_eq_some_iff_first fun _ => Iff.rfl).mp hround.opened,
    hround.holds_opening.2, ?_, ?_, ?_, ?_, hround.stop_of_singleLine⟩
  · intro hjoins
    rw [hround.started, Region.rangeStart_of_companionAt hjoins]
  · intro hjoins
    rw [hround.started, Region.rangeStart_of_not_companionAt hjoins]
  · intro openings exclude hrule
    exact hround.first_sibling hrule
  · intro test offset hrule
    obtain ⟨found, heq, hfirst⟩ := hround.first_before hrule
    exact ⟨found, heq, hfirst.lt_length, hfirst⟩

/-- Two panels that end two lines above a sentinel; the second has its heading with it, which the
first could not have had.  And a method that ends before the next one, which is indented, and not
before the one that bears its name too. -/
theorem scanRegion_tight_panels_and_methods :
    let lines := ["<panel>", "</a>", "</b>", "<!-- end -->", "# two", "<panel>", "</c>", "</d>",
      "<!-- end -->"]
    let panel : Region :=
      { mention "<panel>" .delete with
        ending := .before (.contains "end") (-1), companion := some (.startsWith "#")
        multiplicity := .all }
    let methods := ["class A:", "    def old(self):", "        pass", "    def old_too(self):",
      "    def kept(self):"]
    let method : Region := { mention "def old(" .delete with ending := .sibling ["def "] "old" }
    (scanRegion lines panel = .ok [⟨"<panel>", 0, 2⟩, ⟨"<panel>", 4, 7⟩] ∧
      First (panel.opens · = true) lines 2 5 ∧
      First (LineTest.holds · (.contains "end") = true) lines 6 8) ∧
    scanRegion methods method = .ok [⟨"def old(", 1, 4⟩] ∧
      First (method.opens · = true) methods 0 1 ∧
      First (IsSibling ["def "] "old") methods 2 4 := by
  intro lines panel methods method
  have hscan : scanRegion lines panel = .ok [⟨"<panel>", 0, 2⟩, ⟨"<panel>", 4, 7⟩] := by
    decide +kernel
  have hother : scanRegion methods method = .ok [⟨"def old(", 1, 4⟩] := by decide +kernel
  have hpanel : findFrom panel.opens lines 2 = some 5 := by decide +kernel
  have hmethod : findFrom method.opens methods 0 = some 1 := by decide +kernel
  obtain ⟨opening, hfirst, -, -, -, -, hbefore, -⟩ :=
    scanRegion_tight hscan [⟨"<panel>", 0, 2⟩] ⟨"<panel>", 4, 7⟩ [] rfl
  rw [← findFrom_eq_some_iff_first fun _ => Iff.rfl] at hfirst
  obtain rfl : 5 = opening := Option.some.inj (hpanel.symm.trans hfirst)
  obtain ⟨found, hfound, -, hsentinel⟩ := hbefore _ _ rfl
  obtain rfl : found = 8 := Int.ofNat_inj.mp hfound
  obtain ⟨start, hstart, -, -, -, hsibling, -⟩ :=
    scanRegion_tight hother [] ⟨"def old(", 1, 4⟩ [] rfl
  rw [← findFrom_eq_some_iff_first fun _ => Iff.rfl] at hstart
  obtain rfl : 1 = start := Option.some.inj (hmethod.symm.trans hstart)
  rw [findFrom_eq_some_iff_first fun _ => Iff.rfl] at hfirst hstart
  exact ⟨⟨hscan, hfirst, hsentinel⟩, hother, hstart, hsibling _ _ rfl⟩

end LineCut
