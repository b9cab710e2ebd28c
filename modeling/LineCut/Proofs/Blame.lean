/-
Which region a scan stops at.

A plan is scanned region by region, and each region is held against all that came before it.  So the
scan of a plan is made up of the scans of its parts: `scanAfter_append` says that the later regions
are scanned as if the ranges of the earlier ones had been given.  A scan that succeeds has succeeded
on every beginning of the plan, and one that fails has a first region it cannot get past.

That region is the one to blame, and there are two things it can be blamed for.  It cannot be found,
other than by being optional and missing; or it is found, and a range of it has a line that an
earlier region has.  Of all pairs of such ranges one is reported: the first range of the new region
that meets any earlier one, with the first of the earlier ones that it meets.
-/
import Mathlib.Data.List.Induction
import LineCut.Proofs.Coverage
import LineCut.Proofs.Reordering

namespace LineCut

variable {lines : List String} {region : Region} {earlier : List LineRange}
variable {regions : List Region} {scans : List RegionScan} {fault : Fault}

/-! ### A plan in parts -/

/-- **The later regions of a plan are scanned with the ranges of the earlier ones in hand.**  The
induction is on the earlier regions. -/
theorem scanAfter_append (earlier : List LineRange) (front back : List Region) :
    scanAfter lines earlier (front ++ back) =
      match scanAfter lines earlier front with
      | .error fault => .error fault
      | .ok scans => (scanAfter lines (earlier ++ foundRanges scans) back).map (scans ++ ·) := by
  induction front generalizing earlier with
  | nil =>
      show scanAfter lines earlier back = _
      simp only [scanAfter, foundRanges, List.flatMap_nil, List.append_nil, List.nil_append]
      cases scanAfter lines earlier back with
      | error fault => rfl
      | ok scans => rfl
  | cons region rest ih =>
      rw [List.cons_append, scanAfter, scanAfter]
      cases scanOptional lines region with
      | error fault => rfl
      | ok ranges =>
          dsimp only
          cases clash earlier ranges with
          | some pair => rfl
          | none =>
              dsimp only
              rw [ih]
              cases scanAfter lines (earlier ++ ranges) rest with
              | error fault => rfl
              | ok scans =>
                  have hfound : earlier ++ foundRanges (⟨region.name, ranges⟩ :: scans)
                      = earlier ++ ranges ++ foundRanges scans := by
                    simp [foundRanges]
                  dsimp only
                  rw [hfound]
                  cases scanAfter lines (earlier ++ ranges ++ foundRanges scans) back with
                  | error fault => rfl
                  | ok later => rfl

/-- A plan whose beginning fails fails with the same fault. -/
theorem scanPlan_append_of_error {front : List Region} (h : scanPlan lines front = .error fault)
    (back : List Region) : scanPlan lines (front ++ back) = .error fault := by
  have hfront : scanAfter lines [] front = .error fault := h
  rw [scanPlan, scanAfter_append, hfront]

/-- **A scan that succeeds has succeeded on every beginning of the plan.** -/
theorem scanPlan_take (h : scanPlan lines regions = .ok scans) (k : Nat) :
    scanPlan lines (regions.take k) = .ok (scans.take k) := by
  obtain ⟨⟨hresolves, hseparate⟩, rfl⟩ := scanPlan_eq_ok_iff.mp h
  rw [scanPlan_eq_ok_iff, List.map_take]
  exact ⟨⟨fun region hmem => hresolves region (List.mem_of_mem_take hmem),
    hseparate.sublist (List.take_sublist k regions)⟩, rfl⟩

/-- **A scan that fails fails at one region**: those before it are found, and with it the same fault
comes up.  The induction is on the regions from the last one. -/
theorem exists_failing_of_scanPlan (h : scanPlan lines regions = .error fault) :
    ∃ front region back scans, regions = front ++ region :: back ∧
      scanPlan lines front = .ok scans ∧ scanPlan lines (front ++ [region]) = .error fault := by
  induction regions using List.reverseRecOn with
  | nil => cases h
  | append_singleton front region ih =>
      cases hfront : scanPlan lines front with
      | ok scans => exact ⟨front, region, [], scans, rfl, hfront, h⟩
      | error other =>
          have hsame := scanPlan_append_of_error hfront [region]
          rw [h] at hsame
          cases hsame
          obtain ⟨first, failing, back, scans, rfl, hfirst, hfails⟩ := ih hfront
          exact ⟨first, failing, back ++ [region], scans, by simp, hfirst, hfails⟩

/-! ### One region -/

/-- The region is optional, and looking for it says that it is missing. -/
def Excused (lines : List String) (region : Region) : Prop :=
  region.required = false ∧
    ∃ fault, scanRegion lines region = .error fault ∧ fault.code = "region.start_not_found"

/-- **When a region is got past**: it is found, or excused and then without ranges. -/
theorem scanOptional_eq_ok_iff {ranges : List LineRange} :
    scanOptional lines region = .ok ranges ↔
      scanRegion lines region = .ok ranges ∨ Excused lines region ∧ ranges = [] := by
  unfold scanOptional Excused
  cases hscan : scanRegion lines region with
  | ok found => simp
  | error fault =>
      cases fault with
      | startNotFound name total =>
          have hcode : (Fault.startNotFound name total).code = "region.start_not_found" := rfl
          cases hrequired : region.required with
          | true => simp
          | false => simp [hcode, eq_comm]
      | _ => simp [Fault.code_eq_startNotFound_iff]

/-- **When a region stops the scan**: whatever looking for it fails with, unless it is excused. -/
theorem scanOptional_eq_error_iff :
    scanOptional lines region = .error fault ↔
      scanRegion lines region = .error fault ∧ ¬ Excused lines region := by
  unfold scanOptional Excused
  cases hscan : scanRegion lines region with
  | ok found => simp
  | error fault =>
      cases fault with
      | startNotFound name total =>
          have hcode : (Fault.startNotFound name total).code = "region.start_not_found" := rfl
          cases hrequired : region.required with
          | true => simp
          | false => simp [hcode]
      | _ => simp [Fault.code_eq_startNotFound_iff]

/-- `range` is the first of the new ranges that shares a line with an earlier one, and `prior` the
first of the earlier ones that it shares a line with. -/
structure FirstClash (earlier ranges : List LineRange) (prior range : LineRange) : Prop where
  /-- No new range before it has a line that an earlier one has. -/
  range_first : ∃ before after, ranges = before ++ range :: after ∧
    ∀ r ∈ before, ∀ p ∈ earlier, p.Apart r
  /-- The earlier ranges before the other one have no line in common with it. -/
  prior_first : ∃ front back, earlier = front ++ prior :: back ∧ ∀ p ∈ front, p.Apart range
  /-- The two have a line in common. -/
  shared : ∃ line, prior.Holds line ∧ range.Holds line

/-- **Which clash is reported.**  All ranges hold lines, so that to overlap is to share one. -/
theorem clash_eq_some_iff {ranges : List LineRange} {prior range : LineRange} {total : Nat}
    (hearlier : ∀ p ∈ earlier, p.Within total) (hranges : ∀ r ∈ ranges, r.Within total) :
    clash earlier ranges = some (prior, range) ↔ FirstClash earlier ranges prior range := by
  have hfind : ∀ r, (earlier.find? (·.overlaps r)).map (fun p => (p, r)) = none ↔
      ∀ p ∈ earlier, p.overlaps r = false := by simp
  unfold clash
  rw [List.findSome?_eq_some_iff]
  constructor
  · rintro ⟨before, r, after, rfl, hsome, hnone⟩
    obtain ⟨p, hp, heq⟩ := Option.map_eq_some_iff.mp hsome
    obtain ⟨rfl, rfl⟩ := Prod.mk.inj heq
    obtain ⟨hover, front, back, rfl, hfront⟩ := List.find?_eq_some_iff_append.mp hp
    have hwithin := hranges r (by simp)
    refine ⟨⟨before, after, rfl, ?_⟩, ⟨front, back, rfl, ?_⟩, ?_⟩
    · intro other hmem q hq
      rw [LineRange.apart_iff_overlaps (hearlier q hq) (hranges other (by simp [hmem]))]
      exact (hfind other).mp (hnone other hmem) q hq
    · intro q hq
      rw [LineRange.apart_iff_overlaps (hearlier q (by simp [hq])) hwithin]
      simpa using hfront q hq
    · exact (LineRange.overlaps_iff (hearlier p (by simp)).1 hwithin.1).mp hover
  · rintro ⟨⟨before, after, rfl, hbefore⟩, ⟨front, back, rfl, hfront⟩, hshared⟩
    have hwithin := hranges range (by simp)
    refine ⟨before, range, after, rfl, ?_, ?_⟩
    · have hfound : (front ++ prior :: back).find? (·.overlaps range) = some prior := by
        rw [List.find?_eq_some_iff_append]
        refine ⟨(LineRange.overlaps_iff (hearlier prior (by simp)).1 hwithin.1).mpr hshared,
          front, back, rfl, ?_⟩
        intro q hq
        have hapart := hfront q hq
        rw [LineRange.apart_iff_overlaps (hearlier q (by simp [hq])) hwithin] at hapart
        simpa using hapart
      rw [hfound]
      rfl
    · intro other hmem
      rw [hfind]
      intro q hq
      rw [← LineRange.apart_iff_overlaps (hearlier q hq) (hranges other (by simp [hmem]))]
      exact hbefore other hmem q hq

/-- What a region can be blamed for when the earlier regions have been found. -/
inductive Blames (lines : List String) (scans : List RegionScan) (region : Region) :
    Fault → Prop
  /-- Looking for it fails, and it is not excused. -/
  | own {fault : Fault} (hscan : scanRegion lines region = .error fault)
      (hfatal : ¬ Excused lines region) : Blames lines scans region fault
  /-- It is found, and a range of it has a line of an earlier region. -/
  | clash {ranges : List LineRange} {prior range : LineRange}
      (hscan : scanRegion lines region = .ok ranges)
      (hclash : FirstClash (foundRanges scans) ranges prior range) :
      Blames lines scans region (.overlap prior range)

/-- One region with nothing behind it. -/
theorem scanAfter_singleton_eq_error_iff :
    scanAfter lines earlier [region] = .error fault ↔
      scanOptional lines region = .error fault ∨
        ∃ ranges prior range, scanOptional lines region = .ok ranges ∧
          clash earlier ranges = some (prior, range) ∧ fault = .overlap prior range := by
  rw [scanAfter]
  cases scanOptional lines region with
  | error found => simp
  | ok ranges =>
      cases hclash : clash earlier ranges with
      | none => simp [scanAfter, hclash]
      | some pair =>
          obtain ⟨prior, range⟩ := pair
          simp [hclash, eq_comm]

/-- **A region stops the scan exactly if it is to blame.** -/
theorem scanPlan_concat_eq_error_iff {front : List Region} (h : scanPlan lines front = .ok scans) :
    scanPlan lines (front ++ [region]) = .error fault ↔ Blames lines scans region fault := by
  have hfront : scanAfter lines [] front = .ok scans := h
  have hlast : scanPlan lines (front ++ [region]) = .error fault ↔
      scanAfter lines (foundRanges scans) [region] = .error fault := by
    rw [scanPlan, scanAfter_append, hfront]
    dsimp only
    rw [List.nil_append]
    cases scanAfter lines (foundRanges scans) [region] with
    | error other => rfl
    | ok later => simp [Except.map]
  rw [hlast, scanAfter_singleton_eq_error_iff, scanOptional_eq_error_iff]
  have hwithin : ∀ {ranges}, scanRegion lines region = .ok ranges →
      ∀ range ∈ ranges, range.Within lines.length :=
    fun hscan => (search_of_scanRegion hscan).1.within
  constructor
  · rintro (⟨hscan, hfatal⟩ | ⟨ranges, prior, range, hscan, hclash, rfl⟩)
    · exact .own hscan hfatal
    · rcases scanOptional_eq_ok_iff.mp hscan with hfound | ⟨-, rfl⟩
      · exact .clash hfound ((clash_eq_some_iff (within_of_scanPlan h) (hwithin hfound)).mp hclash)
      · cases hclash
  · intro hblames
    cases hblames with
    | own hscan hfatal => exact Or.inl ⟨hscan, hfatal⟩
    | @clash ranges prior range hscan hclash =>
        exact Or.inr ⟨ranges, prior, range, scanOptional_eq_ok_iff.mpr (Or.inl hscan),
          (clash_eq_some_iff (within_of_scanPlan h) (hwithin hscan)).mpr hclash, rfl⟩

/-! ### The place in the plan -/

/-- What a scan has found for a region that it got past. -/
theorem found_or_excused {i : Nat} {scan : RegionScan} (h : scanPlan lines regions = .ok scans)
    (hregion : regions[i]? = some region) (hscan : scans[i]? = some scan) :
    scanRegion lines region = .ok scan.ranges ∨ Excused lines region ∧ scan.ranges = [] := by
  obtain ⟨⟨hresolves, -⟩, rfl⟩ := scanPlan_eq_ok_iff.mp h
  rw [List.getElem?_map, hregion] at hscan
  obtain rfl : scanOf lines region = scan := Option.some.inj hscan
  exact scanOptional_eq_ok_iff.mp (hresolves region (List.mem_of_getElem? hregion))

theorem ranges_eq_nil_iff_excused {ranges : List LineRange}
    (h : scanRegion lines region = .ok ranges ∨ Excused lines region ∧ ranges = []) :
    ranges = [] ↔ Excused lines region := by
  rcases h with hfound | ⟨hexcused, hnil⟩
  · have hnot : ¬ Excused lines region := by
      rintro ⟨-, fault, hfails, -⟩
      rw [hfound] at hfails
      cases hfails
    exact iff_of_false (scanRegion_eq_ok_iff.mp hfound).2 hnot
  · exact iff_of_true hnil hexcused

/-- A beginning that is scanned is no longer than one that fails behind it. -/
theorem le_of_scanPlan_take {j k : Nat} (hj : scanPlan lines (regions.take j) = .ok scans)
    (hk : scanPlan lines (regions.take (k + 1)) = .error fault) : j ≤ k := by
  by_contra hlt
  have hshorter := scanPlan_take hj (k + 1)
  rw [List.take_take, Nat.min_eq_left (by omega), hk] at hshorter
  cases hshorter

/--
**A scan is made up of the scans of its regions, and stops at the one that is to blame.**  If it
succeeds, it has a result for each region, under its name and in order: the ranges of that region
alone, or none, the latter exactly if the region is optional and missing; and every beginning of the
plan has the beginning of the result.  If it fails, there is exactly one place up to which it
succeeds and with which it fails, and the fault is what the region there is blamed for: the fault of
that region alone, unless it is excused, or the first clash of its ranges with those before.
Whatever a region is blamed for when those before it have been found is what the scan fails with.
-/
theorem scanPlan_blames (lines : List String) (regions : List Region) :
    (∀ scans, scanPlan lines regions = .ok scans →
      scans.length = regions.length ∧
      scans.map (·.name) = regions.map (·.name) ∧
      (∀ (i : Nat) region scan, regions[i]? = some region → scans[i]? = some scan →
        (scanRegion lines region = .ok scan.ranges ∨ Excused lines region ∧ scan.ranges = []) ∧
        (scan.ranges = [] ↔ Excused lines region)) ∧
      ∀ k, scanPlan lines (regions.take k) = .ok (scans.take k)) ∧
    (∀ fault, scanPlan lines regions = .error fault →
      ∃ k region scans, regions[k]? = some region ∧
        scanPlan lines (regions.take k) = .ok scans ∧
        scanPlan lines (regions.take (k + 1)) = .error fault ∧
        (∀ j other, scanPlan lines (regions.take j) = .ok other →
          scanPlan lines (regions.take (j + 1)) = .error fault → j = k) ∧
        Blames lines scans region fault) ∧
    ∀ (k : Nat) region scans fault, regions[k]? = some region →
      scanPlan lines (regions.take k) = .ok scans → Blames lines scans region fault →
      scanPlan lines regions = .error fault := by
  refine ⟨?_, ?_, ?_⟩
  · intro scans h
    have hnames : scans.map (·.name) = regions.map (·.name) := by
      rw [(scanPlan_eq_ok_iff.mp h).2]
      simp [scanOf]
    refine ⟨(planSearch_of_scanPlan h).length_eq, hnames, ?_, scanPlan_take h⟩
    intro i region scan hregion hscan
    have hfound := found_or_excused h hregion hscan
    exact ⟨hfound, ranges_eq_nil_iff_excused hfound⟩
  · intro fault h
    obtain ⟨front, region, back, scans, rfl, hfront, hfails⟩ := exists_failing_of_scanPlan h
    have htake : (front ++ region :: back).take front.length = front := List.take_left
    have hnext : (front ++ region :: back).take (front.length + 1) = front ++ [region] := by
      simp [List.take_append, List.take_of_length_le]
    rw [← htake] at hfront
    have hblames := (scanPlan_concat_eq_error_iff (htake ▸ hfront)).mp hfails
    rw [← hnext] at hfails
    refine ⟨front.length, region, scans, by simp, hfront, hfails, ?_, hblames⟩
    intro j other hj hjfails
    exact Nat.le_antisymm (le_of_scanPlan_take hj hfails) (le_of_scanPlan_take hfront hjfails)
  · intro k region scans fault hregion hfront hblames
    obtain ⟨hlt, rfl⟩ := List.getElem?_eq_some_iff.mp hregion
    have hfails := (scanPlan_concat_eq_error_iff hfront).mpr hblames
    have hall := scanPlan_append_of_error hfails (regions.drop (k + 1))
    rw [List.append_assoc, List.singleton_append, ← List.drop_eq_getElem_cons hlt,
      List.take_append_drop] at hall
    exact hall

/-- Four regions, of which the first is missing and excused.  The last has three ranges: one that
meets nothing, and two in the lines of the region before it. -/
theorem scanPlan_blames_every :
    let lines := ["use x", "a", "if y begin", "a", "end", "a"]
    let every : Region := { mention "every" .delete with
      start := .any [.startsWith "a", .contains "end"], multiplicity := .all }
    let regions := [mention "gone()" .delete, mention "use " .delete,
      { mention "if " .delete with ending := .balanced "begin" "end" }, every]
    let scans : List RegionScan :=
      [⟨"gone()", []⟩, ⟨"use ", [⟨"use ", 0, 1⟩]⟩, ⟨"if ", [⟨"if ", 2, 5⟩]⟩]
    let fault : Fault := .overlap ⟨"if ", 2, 5⟩ ⟨"every", 3, 4⟩
    scanPlan lines (regions.take 3) = .ok scans ∧
      scans.map (·.name) = (regions.take 3).map (·.name) ∧
      scanPlan lines regions = .error fault ∧ Blames lines scans every fault := by
  intro lines every regions scans fault
  have hscan : scanPlan lines (regions.take 3) = .ok scans := by decide +kernel
  have hfails : scanPlan lines regions = .error fault := by decide +kernel
  obtain ⟨-, hnames, -⟩ := (scanPlan_blames lines (regions.take 3)).1 scans hscan
  obtain ⟨k, region, found, hregion, hfront, -, hunique, hblames⟩ :=
    (scanPlan_blames lines regions).2.1 fault hfails
  obtain rfl : 3 = k := hunique 3 scans hscan hfails
  obtain rfl : every = region := Option.some.inj hregion
  obtain rfl : scans = found := Except.ok.inj (hscan.symm.trans hfront)
  exact ⟨hscan, hnames, hfails, hblames⟩

end LineCut
