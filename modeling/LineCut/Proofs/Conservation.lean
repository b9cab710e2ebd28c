/-
What a report adds up to.

A report says how many lines there were and are, how many of them were removed and put in, and the
same again for each region.  None of these numbers is made from another.  The totals are the
editor's, who adds up the edits in the order of the text.  The numbers of a region come from its
ranges and its action, in the order of the plan.  And the lines are counted in the two documents.

That they agree has two reasons.  The edits are made of the same ranges, so both sums are over the
same terms.  And no line is in two ranges, so that a sum of lengths is a number of lines: as many
lines are gone from the document as the report says, whichever way the ranges are spread over the
regions.

Nothing is asked of the disk here.  It may give another text each time it is read; the report is
about the one that was read.
-/
import LineCut.Proofs.Atomicity
import LineCut.Proofs.Pointwise

namespace LineCut

variable {regions : List Region} {scans : List RegionScan}

/-! ### Lines counted from one -/

/-- Line `n`, counted from one, is in the range. -/
def RangeReport.Covers (range : RangeReport) (n : Nat) : Prop :=
  range.startLine ≤ n ∧ n ≤ range.endLine

instance (range : RangeReport) (n : Nat) : Decidable (range.Covers n) :=
  inferInstanceAs (Decidable (_ ∧ _))

theorem RangeReport.covers_of_iff {range : LineRange} {n : Nat} :
    (RangeReport.of range).Covers n ↔ ∃ i, range.Holds i ∧ i + 1 = n := by
  simp only [Covers, RangeReport.of, LineRange.Holds]
  constructor
  · rintro ⟨hstart, hend⟩
    exact ⟨n - 1, by omega, by omega⟩
  · rintro ⟨i, hholds, heq⟩
    omega

/-- The lines among the first `total`, counted from one, that are in some range. -/
def coveredLines (total : Nat) (ranges : List RangeReport) : Finset Nat :=
  (Finset.Icc 1 total).filter fun n => ∃ range ∈ ranges, range.Covers n

/-- Counted from one, the lines are the next ones of those counted from zero. -/
theorem coveredLines_of (total : Nat) (edits : List Edit) :
    coveredLines total ((edits.map (·.range)).map .of) =
      (Edit.covered total edits).image (· + 1) := by
  ext n
  simp only [coveredLines, Edit.covered, Finset.mem_filter, Finset.mem_Icc, Finset.mem_image,
    Finset.mem_range, List.map_map, List.mem_map, Function.comp_apply, exists_exists_and_eq_and,
    RangeReport.covers_of_iff]
  constructor
  · rintro ⟨⟨-, hle⟩, edit, hmem, i, hholds, heq⟩
    exact ⟨i, ⟨by omega, edit, hmem, hholds⟩, heq⟩
  · rintro ⟨i, ⟨hlt, edit, hmem, hholds⟩, heq⟩
    exact ⟨⟨by omega, by omega⟩, edit, hmem, i, hholds, heq⟩

/-- Apart counted from zero is apart counted from one. -/
theorem RangeReport.apart_of {r s : LineRange} (h : r.Apart s) (n : Nat) :
    ¬ ((RangeReport.of r).Covers n ∧ (RangeReport.of s).Covers n) := by
  intro ⟨hr, hs⟩
  obtain ⟨i, hi, rfl⟩ := covers_of_iff.mp hr
  obtain ⟨j, hj, heq⟩ := covers_of_iff.mp hs
  obtain rfl : j = i := Nat.succ.inj heq
  exact h j ⟨hi, hj⟩

/-! ### Sums over regions -/

theorem LineRange.totalLength_eq_sum (ranges : List LineRange) :
    totalLength ranges = ((ranges.map RangeReport.of).map (·.lines)).sum := by
  induction ranges with
  | nil => rfl
  | cons range rest ih =>
      rw [totalLength, ih]
      rfl

theorem LineRange.totalLength_append (front back : List LineRange) :
    totalLength (front ++ back) = totalLength front + totalLength back := by
  simp [totalLength_eq_sum]

/-- What two sets of edits take out and put in is taken out and put in by both together. -/
theorem Edit.stats_append (front back : List Edit) :
    stats (front ++ back) =
      ⟨(stats front).removed + (stats back).removed,
        (stats front).inserted + (stats back).inserted⟩ := by
  simp [stats, LineRange.totalLength_append]

/-- The edits of a region take out and put in what the report on it says. -/
theorem RegionReport.stats_edits (region : Region) (scan : RegionScan) :
    Edit.stats (scan.ranges.map fun range => ⟨range, region.action⟩) =
      ⟨(RegionReport.of region scan).removed, (RegionReport.of region scan).inserted⟩ := by
  have hranges : (scan.ranges.map fun range => Edit.mk range region.action).map (·.range) =
      scan.ranges := by
    rw [List.map_map]
    exact List.map_id' scan.ranges
  have hinserted : ((scan.ranges.map fun range => Edit.mk range region.action).flatMap
      (·.action.insertion)).length = region.action.insertion.length * scan.ranges.length := by
    simp [List.length_flatMap, Nat.mul_comm, Function.comp_def]
  rw [Edit.stats, hranges, hinserted]
  rfl

/-- **The editor's totals are the sums of what is reported of the regions.** -/
theorem stats_editsOf (regions : List Region) (scans : List RegionScan) :
    Edit.stats (editsOf regions scans) =
      ⟨((regionReports regions scans).map (·.removed)).sum,
        ((regionReports regions scans).map (·.inserted)).sum⟩ := by
  unfold editsOf regionReports
  induction regions.zip scans with
  | nil => rfl
  | cons pair rest ih =>
      obtain ⟨region, scan⟩ := pair
      rw [List.flatMap_cons, Edit.stats_append, ih, RegionReport.stats_edits]
      simp only [List.map_cons, List.sum_cons]

/-- The reports on the regions list the ranges of the edits, in the order of the plan. -/
theorem ranges_regionReports (regions : List Region) (scans : List RegionScan) :
    (regionReports regions scans).flatMap (·.ranges) =
      ((editsOf regions scans).map (·.range)).map .of := by
  unfold editsOf regionReports
  rw [List.flatMap_map, List.map_map, List.map_flatMap]
  refine List.flatMap_congr ?_
  intro ⟨region, scan⟩ _
  simp [RegionReport.of, Function.comp_def]

/-! ### Whole reports -/

/-- The ranges of all regions. -/
def ApplyReport.ranges (report : ApplyReport) : List RangeReport :=
  report.regions.flatMap (·.ranges)

theorem ApplyReport.delta_eq_of_lines_eq {report : ApplyReport}
    (h : report.newLines + report.removed = report.oldLines + report.inserted) :
    report.delta = (report.inserted : Int) - report.removed := by
  unfold delta
  omega

/-- The numbers of a report fit together. -/
structure ApplyReport.Conserves (report : ApplyReport) : Prop where
  /-- No line comes from nowhere or is lost. -/
  lines_eq : report.newLines + report.removed = report.oldLines + report.inserted
  delta_eq : report.delta = (report.inserted : Int) - report.removed
  removed_eq : report.removed = (report.regions.map (·.removed)).sum
  inserted_eq : report.inserted = (report.regions.map (·.inserted)).sum
  region_removed_eq : ∀ region ∈ report.regions,
    region.removed = (region.ranges.map (·.lines)).sum
  /-- A range has the lines from its first to its last. -/
  range_lines_eq : ∀ range ∈ report.ranges, range.startLine + range.lines = range.endLine + 1
  within : ∀ range ∈ report.ranges,
    1 ≤ range.startLine ∧ range.startLine ≤ range.endLine ∧ range.endLine ≤ report.oldLines
  /-- No line is in two ranges, of one region or of two. -/
  apart : report.ranges.Pairwise fun r s => ∀ n, ¬ (r.Covers n ∧ s.Covers n)
  /-- As many lines are in the ranges as are removed. -/
  card_coveredLines : (coveredLines report.oldLines report.ranges).card = report.removed

/-- The report on a revision lists the ranges of its edits. -/
theorem ranges_applyReport {path : String} {doc : Document} {revision : Revision}
    {write applied : Bool} :
    (applyReport path doc regions revision write applied).ranges =
      ((editsOf regions revision.scans).map (·.range)).map .of :=
  ranges_regionReports regions revision.scans

/-- **The report on a revision conserves lines.** -/
theorem conserves_applyReport {path : String} {doc : Document} {revision : Revision}
    (h : doc.revise regions = .ok revision) (write applied : Bool) :
    (applyReport path doc regions revision write applied).Conserves := by
  obtain ⟨scans, hscan, -, rfl⟩ := revise_eq_ok_iff.mp h
  have hcompatible := compatible_editsOf hscan
  have hstats := stats_editsOf regions scans
  have hlines := length_of_applyEdits (applyEdits_eq_ok_iff.mpr ⟨hcompatible, rfl⟩)
  refine ⟨hlines, ?_, ?_, ?_, ?_, ?_, ?_, ?_, ?_⟩
  · exact ApplyReport.delta_eq_of_lines_eq hlines
  · exact congrArg EditStats.removed hstats
  · exact congrArg EditStats.inserted hstats
  · intro region hmem
    obtain ⟨⟨source, scan⟩, -, rfl⟩ := List.mem_map.mp hmem
    exact LineRange.totalLength_eq_sum scan.ranges
  · rw [ranges_applyReport, List.forall_mem_map, List.forall_mem_map]
    intro edit hmem
    have hwithin := hcompatible.within edit hmem
    simp only [RangeReport.of, LineRange.length, LineRange.Within] at hwithin ⊢
    omega
  · rw [ranges_applyReport, List.forall_mem_map, List.forall_mem_map]
    intro edit hmem
    obtain ⟨hlt, hle⟩ := hcompatible.within edit hmem
    exact ⟨Nat.succ_pos _, hlt, hle⟩
  · rw [ranges_applyReport, List.pairwise_map, List.pairwise_map]
    exact hcompatible.apart.imp fun hapart => RangeReport.apart_of hapart
  · rw [ranges_applyReport, coveredLines_of, Finset.card_image_of_injective _ Nat.succ_injective]
    exact hcompatible.card_covered

/--
**A run conserves lines, and its report says so.**  Whatever the disk does, if a run succeeds, asked
to write or not, then the new lines and those removed are as many as the old lines and those put in,
and the difference it reports is that of the two.  The numbers of lines removed and put in are the
sums of those of the regions, and what a region removes is the sum of its ranges.  No two ranges
share a line, each has some and only such as were there, and together they hold exactly as many
lines as are removed.
-/
theorem applyFile_conserves {σ : Type} (disk : Disk (StateM σ)) (path : String) (plan : Plan)
    (write : Bool) (s after : σ) (report : ApplyReport)
    (h : applyFile disk path plan write s = (.ok report, after)) : report.Conserves := by
  obtain ⟨doc, regions, -, revision, -, hrevise, heq⟩ := exists_revision_of_applyFile h
  rw [heq]
  exact conserves_applyReport hrevise write report.applied

/-- Delete every use, and give the block another body. -/
def dropUsesAndRewrite : Plan where
  regions :=
    [{ name := "use", start := .startsWith "use ", ending := .singleLine, multiplicity := .all },
     { name := "block", start := .startsWith "begin", ending := .balanced "begin" "end"
       action := .replace ["one", "two", "three", "four"] }]

/-- Two uses with the block between them: two ranges of the one region and one of the other, five
lines removed and four put in. -/
theorem applyFile_conserves_uses_and_block :
    let tree := Tree.empty.addFile ["notes"] "use x\nbegin\n  old\nend\nkept\nuse y\n".toUTF8
    let report : ApplyReport := ⟨"notes", .lf, 6, 5, 5, 4,
      [⟨"use", true, [⟨1, 1, 0, 1, 1⟩, ⟨6, 6, 5, 6, 1⟩], 2, 0⟩,
        ⟨"block", true, [⟨2, 4, 1, 4, 3⟩], 3, 4⟩], true, false⟩
    applyFile Tree.disk "notes" dropUsesAndRewrite false tree = (.ok report, tree) ∧
      report.Conserves := by
  intro tree report
  let doc := Document.parse "use x\nbegin\n  old\nend\nkept\nuse y\n"
  let left := ["one", "two", "three", "four", "kept"]
  let scans : List RegionScan :=
    [⟨"use", [⟨"use", 0, 1⟩, ⟨"use", 5, 6⟩]⟩, ⟨"block", [⟨"block", 1, 4⟩]⟩]
  obtain ⟨regions, hcompile, hscan, hlines, hgone, hreports⟩ :
      ∃ regions, dropUsesAndRewrite.compile = .ok regions ∧
        scanPlan doc.lines regions = .ok scans ∧ revisedLines doc.lines regions scans = left ∧
        residual left regions scans = none ∧ regionReports regions scans = report.regions := by
    refine ⟨_, rfl, ?_, ?_, ?_, rfl⟩
    all_goals decide +kernel
  have hrevise : doc.revise regions = .ok ⟨scans, doc.withLines left, ⟨5, 4⟩⟩ := by
    rw [← hlines] at hgone
    rw [revise_eq_ok hscan hgone, hlines, stats_editsOf, hreports]
    rfl
  obtain ⟨loaded, hload, hok⟩ := load_run (fun _ _ => none) tree "notes" dropUsesAndRewrite
  have hread : tree.read "notes" = .ok _ := rfl
  obtain rfl : loaded = .ok (doc, regions) :=
    (hok doc regions).mpr ⟨hcompile, rfl, _, .of_read hread, rfl⟩
  have hending : doc.ending = .lf := by decide +kernel
  have hcount : doc.lines.length = 6 := by decide +kernel
  have hrun : applyFile Tree.disk "notes" dropUsesAndRewrite false tree = (.ok report, tree) := by
    rw [← Tree.refusingDisk_none, applyFile_of_load hload, hrevise]
    show (Except.ok (applyReport "notes" doc regions _ false false), tree) = _
    rw [applyReport, hreports, hending, hcount]
    rfl
  exact ⟨hrun, applyFile_conserves _ _ _ _ _ _ _ hrun⟩

end LineCut
