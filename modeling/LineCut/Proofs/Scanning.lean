/-
What a successful scan says about its ranges.

Looking for a region goes in rounds.  A round has a cursor, before which all lines are taken; it
finds an opening line at or behind the cursor, and its range ends behind that line and among the
lines.  The companion line is the delicate part, since it moves the start of the range backwards:
it is asked for only when the opening line is not the cursor's own, so the range still starts at
the cursor or later.  The next cursor is where the range stops.  So every round keeps what the
rounds before it have left, and the ranges of a region come one behind another.

Between regions nothing of the kind holds, and there the scan compares.  Each new range is held
against every range that is already there, so a scan that succeeds has compared any two ranges of
different regions.
-/
import LineCut.Proofs.Ranges
import LineCut.Scan

namespace LineCut

variable {lines : List String} {region : Region} {cursor : Nat}

/-! ### One region -/

/-- One round of looking for a region: the line that opens it, and the range that comes of it. -/
structure Round (lines : List String) (region : Region) (cursor : Nat) (range : LineRange)
    (opening : Nat) : Prop where
  /-- The first line from the cursor on that opens the region. -/
  opened : findFrom region.opens lines cursor = some opening
  /-- The end that the rule finds, moved by the offset. -/
  ended : ∃ found, region.ending.find lines opening = some found ∧
    region.shiftEnd opening found lines.length = .ok range.stop
  /-- The range starts at the opening line or at its companion. -/
  started : range.start = region.rangeStart lines cursor opening
  /-- The range has the region's name. -/
  named : range.name = region.name

/-- The rounds of looking for a region, from a cursor on. -/
inductive Search (lines : List String) (region : Region) : Nat → List LineRange → Prop
  /-- No line opens the region any more. -/
  | nowhere {cursor : Nat} (hnone : findFrom region.opens lines cursor = none) :
      Search lines region cursor []
  /-- The region is looked for once. -/
  | once {cursor : Nat} {range : LineRange} {opening : Nat}
      (hround : Round lines region cursor range opening) (hfirst : region.multiplicity = .first) :
      Search lines region cursor [range]
  /-- The region is looked for again from where the range stops. -/
  | again {cursor : Nat} {range : LineRange} {opening : Nat} {rest : List LineRange}
      (hround : Round lines region cursor range opening) (hall : region.multiplicity = .all)
      (hrest : Search lines region range.stop rest) : Search lines region cursor (range :: rest)

/-- A successful scan is a search. -/
theorem search_of_scanFrom {ranges : List LineRange}
    (h : scanFrom lines region cursor = .ok ranges) : Search lines region cursor ranges := by
  fun_induction scanFrom lines region cursor generalizing ranges with
  | case1 cursor hnone =>
      cases h
      exact .nowhere hnone
  | case2 => cases h
  | case3 => cases h
  | case4 cursor opening hopen found hfound stop hstop range =>
      rename_i hfirst
      cases h
      exact .once ⟨hopen, ⟨found, hfound, hstop⟩, rfl, rfl⟩ hfirst
  | case5 => cases h
  | case6 cursor opening hopen found hfound stop hstop range hmult rest hrest =>
      rename_i ih
      cases h
      have hall : region.multiplicity = .all := by
        cases hm : region.multiplicity with
        | first => exact absurd hm hmult
        | all => rfl
      exact .again ⟨hopen, ⟨found, hfound, hstop⟩, rfl, rfl⟩ hall (ih hrest)

/-- Nothing is found where no line passes. -/
theorem findFrom_eq_none_iff {test : String → Bool} {start : Nat} :
    findFrom test lines start = none ↔ ∀ line ∈ lines.drop start, test line = false := by
  simp [findFrom, List.findIdx?_eq_none_iff]

/-- Where nothing is found no line behind the start passes. -/
theorem eq_false_of_findFrom_eq_none {test : String → Bool} {start i : Nat} {line : String}
    (h : findFrom test lines start = none) (hle : start ≤ i) (hline : lines[i]? = some line) :
    test line = false := by
  rw [findFrom_eq_none_iff] at h
  refine h line (List.mem_of_getElem? (i := i - start) ?_)
  rw [List.getElem?_drop, Nat.add_sub_cancel' hle]
  exact hline

/-- What is found is the first line from the start on that passes. -/
theorem findFrom_eq_some_iff {test : String → Bool} {start i : Nat} :
    findFrom test lines start = some i ↔
      start ≤ i ∧ (∃ line, lines[i]? = some line ∧ test line = true) ∧
        ∀ j, start ≤ j → j < i → ∀ line, lines[j]? = some line → test line = false := by
  simp only [findFrom, Option.map_eq_some_iff, List.findIdx?_eq_some_iff_getElem]
  constructor
  · rintro ⟨k, ⟨hlt, hpasses, hearlier⟩, rfl⟩
    rw [List.length_drop] at hlt
    refine ⟨Nat.le_add_right _ _, ⟨lines[start + k], List.getElem?_eq_getElem _, ?_⟩, ?_⟩
    · simpa using hpasses
    · intro j hstart hj line hline
      obtain ⟨l, rfl⟩ := Nat.exists_eq_add_of_le hstart
      have hfails := hearlier l (by omega)
      obtain ⟨hbound, rfl⟩ := List.getElem?_eq_some_iff.mp hline
      simpa using hfails
  · rintro ⟨hstart, ⟨line, hline, hpasses⟩, hearlier⟩
    obtain ⟨k, rfl⟩ := Nat.exists_eq_add_of_le hstart
    obtain ⟨hbound, rfl⟩ := List.getElem?_eq_some_iff.mp hline
    refine ⟨k, ⟨?_, ?_, ?_⟩, rfl⟩
    · rw [List.length_drop]
      omega
    · simpa using hpasses
    · intro j hj
      have hfails := hearlier (start + j) (Nat.le_add_right _ _) (by omega) _
        (List.getElem?_eq_getElem (by omega))
      simpa using hfails

/-- A companion never moves the start before the cursor. -/
theorem Region.bounds_rangeStart {opening : Nat} (h : cursor ≤ opening) :
    cursor ≤ region.rangeStart lines cursor opening ∧
      region.rangeStart lines cursor opening ≤ opening := by
  unfold rangeStart
  split
  · rename_i hcond
    simp only [Bool.and_eq_true, decide_eq_true_eq] at hcond
    omega
  · omega

namespace Round

variable {range : LineRange} {opening : Nat}

theorem cursor_le_start (h : Round lines region cursor range opening) : cursor ≤ range.start := by
  rw [h.started]
  exact (Region.bounds_rangeStart (bounds_of_findFrom h.opened).1).1

/-- The opening line is in the range. -/
theorem holds_opening (h : Round lines region cursor range opening) : range.Holds opening := by
  obtain ⟨found, -, hstop⟩ := h.ended
  refine ⟨?_, (Region.bounds_of_shiftEnd hstop).1⟩
  rw [h.started]
  exact (Region.bounds_rangeStart (bounds_of_findFrom h.opened).1).2

theorem within (h : Round lines region cursor range opening) : range.Within lines.length := by
  obtain ⟨found, -, hstop⟩ := h.ended
  have := h.holds_opening
  exact ⟨Nat.lt_of_le_of_lt this.1 this.2, (Region.bounds_of_shiftEnd hstop).2⟩

end Round

namespace Search

variable {ranges : List LineRange}

theorem within (h : Search lines region cursor ranges) :
    ∀ range ∈ ranges, range.Within lines.length := by
  induction h with
  | nowhere => simp
  | once hround => simpa using hround.within
  | again hround _ _ ih => simpa using ⟨hround.within, ih⟩

theorem cursor_le_start (h : Search lines region cursor ranges) :
    ∀ range ∈ ranges, cursor ≤ range.start := by
  induction h with
  | nowhere => simp
  | once hround => simpa using hround.cursor_le_start
  | again hround _ _ ih =>
      intro range hmem
      rcases List.mem_cons.mp hmem with rfl | hrest
      · exact hround.cursor_le_start
      · have hlater := ih range hrest
        have hfirst := hround.cursor_le_start
        have hholds := hround.within.1
        omega

/-- **The ranges of a region come one behind another.** -/
theorem pairwise_before (h : Search lines region cursor ranges) :
    ranges.Pairwise LineRange.Before := by
  induction h with
  | nowhere => exact .nil
  | once => exact List.pairwise_singleton _ _
  | again _ _ hrest ih => exact .cons hrest.cursor_le_start ih

/-- A region has no ranges exactly if no line opens it. -/
theorem eq_nil_iff (h : Search lines region 0 ranges) :
    ranges = [] ↔ ∀ line ∈ lines, region.opens line = false := by
  have hnone : findFrom region.opens lines 0 = none ↔
      ∀ line ∈ lines, region.opens line = false := by
    rw [findFrom_eq_none_iff, List.drop_zero]
  rw [← hnone]
  cases h with
  | nowhere hnone => simp [hnone]
  | once hround => simp [hround.opened]
  | again hround => simp [hround.opened]

end Search

/-! ### Regions that are missing

A scan of one region has its own way of saying that the region is not there, and a plan forgives
that for optional regions.  It must not forgive anything else, so it matters that nothing else
says it.
-/

/-- The rounds themselves never say that a region is missing. -/
theorem scanFrom_ne_startNotFound (name : String) (total : Nat) :
    scanFrom lines region cursor ≠ .error (.startNotFound name total) := by
  fun_induction scanFrom lines region cursor with
  | case1 => simp
  | case2 => simp
  | case3 cursor opening _ found _ fault hshift =>
      intro hfault
      cases hfault
      simp only [Region.shiftEnd, Fault.offsetOutside] at hshift
      split at hshift <;> cases hshift
  | case4 => simp
  | case5 cursor opening _ found _ stop _ _ fault hfault ih =>
      intro hmissing
      cases hmissing
      exact ih hfault
  | case6 => simp

/-- **A region is missing exactly if no line opens it.** -/
theorem scanRegion_eq_startNotFound_iff :
    scanRegion lines region = .error (.startNotFound region.name lines.length) ↔
      ∀ line ∈ lines, region.opens line = false := by
  constructor
  · intro h
    unfold scanRegion at h
    cases hscan : scanFrom lines region 0 with
    | error fault =>
        rw [hscan] at h
        cases h
        exact absurd hscan (scanFrom_ne_startNotFound _ _)
    | ok ranges =>
        rw [hscan] at h
        cases ranges with
        | nil => exact (search_of_scanFrom hscan).eq_nil_iff.mp rfl
        | cons range rest => cases h
  · intro h
    have hnone : findFrom region.opens lines 0 = none := by
      rw [findFrom_eq_none_iff, List.drop_zero]
      exact h
    have hscan : scanFrom lines region 0 = .ok [] := by
      unfold scanFrom
      split
      · rfl
      · rename_i opening hopened
        rw [hnone] at hopened
        cases hopened
    simp only [scanRegion, hscan]

/-- A region that a plan gets past was searched for to the end, and it was found or need not
be. -/
theorem search_of_scanOptional {ranges : List LineRange}
    (h : scanOptional lines region = .ok ranges) :
    Search lines region 0 ranges ∧ (ranges = [] → region.required = false) := by
  unfold scanOptional scanRegion at h
  cases hscan : scanFrom lines region 0 with
  | error fault =>
      rw [hscan] at h
      cases fault with
      | startNotFound name total => exact absurd hscan (scanFrom_ne_startNotFound name total)
      | _ => cases h
  | ok found =>
      rw [hscan] at h
      cases found with
      | nil =>
          simp only at h
          split at h
          · cases h
          · rename_i hrequired
            cases h
            exact ⟨search_of_scanFrom hscan, fun _ => by simpa using hrequired⟩
      | cons range rest =>
          cases h
          exact ⟨search_of_scanFrom hscan, by simp⟩

/-! ### All regions of a plan -/

/-- The searches for the regions of a plan, when there are ranges already. -/
inductive PlanSearch (lines : List String) :
    List LineRange → List Region → List RegionScan → Prop
  /-- All regions have been looked for. -/
  | done {earlier : List LineRange} : PlanSearch lines earlier [] []
  /-- The next region is looked for, and its ranges are held against the earlier ones. -/
  | next {earlier ranges : List LineRange} {region : Region} {rest : List Region}
      {scans : List RegionScan} (hsearch : Search lines region 0 ranges)
      (hmissing : ranges = [] → region.required = false) (hclash : clash earlier ranges = none)
      (hrest : PlanSearch lines (earlier ++ ranges) rest scans) :
      PlanSearch lines earlier (region :: rest) (⟨region.name, ranges⟩ :: scans)

/-- One step of a successful scan: the region has ranges that clash with no earlier ones, and the
later regions are held against those, too. -/
theorem scanAfter_cons_eq_ok_iff {earlier : List LineRange} {rest : List Region}
    {scans : List RegionScan} :
    scanAfter lines earlier (region :: rest) = .ok scans ↔
      ∃ ranges later, scanOptional lines region = .ok ranges ∧ clash earlier ranges = none ∧
        scanAfter lines (earlier ++ ranges) rest = .ok later ∧
        scans = ⟨region.name, ranges⟩ :: later := by
  rw [scanAfter]
  cases hscan : scanOptional lines region with
  | error fault => simp
  | ok ranges =>
      cases hclash : clash earlier ranges with
      | some pair => simp [hclash]
      | none =>
          cases hrest : scanAfter lines (earlier ++ ranges) rest with
          | error fault => simp [hclash, hrest]
          | ok later => simp [hclash, hrest, eq_comm]

/-- A successful scan of a plan is a search for each of its regions. -/
theorem planSearch_of_scanAfter {earlier : List LineRange} {regions : List Region}
    {scans : List RegionScan} (h : scanAfter lines earlier regions = .ok scans) :
    PlanSearch lines earlier regions scans := by
  fun_induction scanAfter lines earlier regions generalizing scans with
  | case1 =>
      cases h
      exact .done
  | case2 => cases h
  | case3 => cases h
  | case4 => cases h
  | case5 earlier region rest ranges hscan hclash scans hrest ih =>
      cases h
      obtain ⟨hsearch, hmissing⟩ := search_of_scanOptional hscan
      exact .next hsearch hmissing hclash (ih hrest)

/-- The ranges of all regions, in the order of the plan. -/
def foundRanges (scans : List RegionScan) : List LineRange :=
  scans.flatMap (·.ranges)

/-- No clash means that no new range overlaps an earlier one. -/
theorem clash_eq_none_iff {earlier ranges : List LineRange} :
    clash earlier ranges = none ↔
      ∀ prior ∈ earlier, ∀ range ∈ ranges, prior.overlaps range = false := by
  simp only [clash, List.findSome?_eq_none_iff, Option.map_eq_none_iff, List.find?_eq_none,
    Bool.not_eq_true]
  exact ⟨fun h prior hp range hr => h range hr prior hp,
    fun h range hr prior hp => h prior hp range hr⟩

namespace PlanSearch

variable {earlier : List LineRange} {regions : List Region} {scans : List RegionScan}

theorem length_eq (h : PlanSearch lines earlier regions scans) : scans.length = regions.length := by
  induction h with
  | done => rfl
  | next _ _ _ _ ih => simp [ih]

/-- Every region of the plan has been searched for. -/
theorem search_of_mem_zip (h : PlanSearch lines earlier regions scans) :
    ∀ p ∈ regions.zip scans, Search lines p.1 0 p.2.ranges := by
  induction h with
  | done => simp
  | next hsearch _ _ _ ih =>
      intro p hp
      rcases List.mem_cons.mp hp with rfl | hlater
      · exact hsearch
      · exact ih p hlater

/-- Every region of the plan has a scan of its own. -/
theorem exists_scan (h : PlanSearch lines earlier regions scans) {region : Region}
    (hmem : region ∈ regions) : ∃ scan, (region, scan) ∈ regions.zip scans := by
  induction h with
  | done => simp at hmem
  | next _ _ _ _ ih =>
      rcases List.mem_cons.mp hmem with rfl | hlater
      · exact ⟨_, List.mem_cons_self⟩
      · obtain ⟨scan, hscan⟩ := ih hlater
        exact ⟨scan, List.mem_cons_of_mem _ hscan⟩

theorem within (h : PlanSearch lines earlier regions scans) :
    ∀ range ∈ foundRanges scans, range.Within lines.length := by
  induction h with
  | done => simp [foundRanges]
  | next hsearch _ _ _ ih =>
      intro range hmem
      simp only [foundRanges, List.flatMap_cons, List.mem_append] at hmem
      rcases hmem with hown | hlater
      · exact hsearch.within range hown
      · exact ih range hlater

/-- **No two ranges of a plan have a line in common**, if that held of the ranges that were there
before. -/
theorem pairwise_apart (h : PlanSearch lines earlier regions scans)
    (hwithin : ∀ range ∈ earlier, range.Within lines.length)
    (hearlier : earlier.Pairwise LineRange.Apart) :
    (earlier ++ foundRanges scans).Pairwise LineRange.Apart := by
  induction h with
  | done => simpa [foundRanges] using hearlier
  | @next earlier ranges region rest scans hsearch _ hclash hrest ih =>
      have hown : ranges.Pairwise LineRange.Apart :=
        hsearch.pairwise_before.imp LineRange.Before.apart
      have hcross : ∀ prior ∈ earlier, ∀ range ∈ ranges, prior.Apart range := by
        intro prior hp range hr
        rw [LineRange.apart_iff_overlaps (hwithin prior hp) (hsearch.within range hr)]
        exact clash_eq_none_iff.mp hclash prior hp range hr
      have hall := ih
        (fun range hmem => (List.mem_append.mp hmem).elim (hwithin range) (hsearch.within range))
        (List.pairwise_append.mpr ⟨hearlier, hown, hcross⟩)
      simpa [foundRanges, List.append_assoc] using hall

end PlanSearch

end LineCut
