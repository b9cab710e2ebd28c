/-
What is left of a region that was deleted.

After the edits every region that was found and deleted is looked for once more, in the lines that
came out, and a line that still opens it stops the run.  So of a region that was found nothing is
left.  A region that was missing is not looked for again: nothing was removed for it, and no line
that was there opens it.  But the lines that came out are not all lines that were there.  Another
region may have put in a line that opens the missing one, and that line stays.

This is all that can happen, and `revise_removes` says so in both directions.  For a deleted
region that was found no line of the output opens it.  For one that was missing some line of the
output opens it exactly if some region that was found and replaced puts such a line in.
-/
import LineCut.Proofs.Separation

namespace LineCut

variable {regions : List Region} {scans : List RegionScan} {output : List String}

/-- Some line opens the region. -/
def Region.OccursIn (region : Region) (lines : List String) : Prop :=
  ∃ line ∈ lines, region.opens line = true

instance (region : Region) (lines : List String) : Decidable (region.OccursIn lines) :=
  inferInstanceAs (Decidable (∃ line ∈ lines, region.opens line = true))

theorem Region.not_occursIn_iff {region : Region} {lines : List String} :
    ¬ region.OccursIn lines ↔ ∀ line ∈ lines, region.opens line = false := by
  simp [OccursIn]

/-- A region that no line opens is missing. -/
theorem scanRegion_of_missing {region : Region} {lines : List String}
    (h : ¬ region.OccursIn lines) :
    scanRegion lines region = .error (.startNotFound region.name lines.length) :=
  scanRegion_eq_startNotFound_iff.mpr (Region.not_occursIn_iff.mp h)

/-- The last look passes over regions that are kept or were missing, and finds no other. -/
theorem residual_eq_none_iff :
    residual output regions scans = none ↔
      ∀ p ∈ regions.zip scans, p.2.found = true → p.1.action = .delete →
        ¬ p.1.OccursIn output := by
  fun_induction residual output regions scans with
  | case1 region regions scan scans hcond line hline =>
      have hoccurs : findFrom region.opens output 0 ≠ none := by simp [hline]
      rw [Ne, findFrom_eq_none_iff, List.drop_zero, ← Region.not_occursIn_iff, not_not] at hoccurs
      simp only [Bool.and_eq_true, beq_iff_eq] at hcond
      simp only [reduceCtorEq, false_iff]
      intro h
      exact h (region, scan) (by simp) hcond.1 hcond.2 hoccurs
  | case2 region regions scan scans hcond hline ih =>
      rw [findFrom_eq_none_iff, List.drop_zero, ← Region.not_occursIn_iff] at hline
      rw [ih]
      simp [hline]
  | case3 region regions scan scans hcond ih =>
      rw [ih]
      simp only [Bool.and_eq_true, beq_iff_eq, not_and] at hcond
      simp only [List.zip_cons_cons, List.mem_cons, forall_eq_or_imp]
      exact ⟨fun h => ⟨fun hf hd => absurd hd (hcond hf), h⟩, fun h => h.2⟩
  | case4 regions scans hshort =>
      have hzip : regions.zip scans = [] := by
        cases regions with
        | nil => rfl
        | cons region rest =>
            cases scans with
            | nil => rfl
            | cons scan more => exact absurd rfl (hshort region rest scan more rfl)
      simp [hzip]

theorem RegionScan.found_iff {scan : RegionScan} : scan.found = true ↔ scan.ranges ≠ [] := by
  simp [found]

/-- A region is found exactly if some line of the text opens it. -/
theorem found_iff_occursIn {lines : List String} {region : Region} {scan : RegionScan}
    (h : Search lines region 0 scan.ranges) : scan.found = true ↔ region.OccursIn lines := by
  have hnil := h.eq_nil_iff
  rw [← Region.not_occursIn_iff] at hnil
  rw [RegionScan.found_iff, ← not_iff_not, ← hnil, not_not]

/-- The edits of a plan are the ranges that were found, each with the action of its region. -/
theorem mem_editsOf_iff {edit : Edit} :
    edit ∈ editsOf regions scans ↔
      ∃ p ∈ regions.zip scans, edit.range ∈ p.2.ranges ∧ edit.action = p.1.action := by
  simp only [editsOf, List.mem_flatMap, List.mem_map]
  constructor
  · rintro ⟨p, hp, range, hrange, rfl⟩
    exact ⟨p, hp, hrange, rfl⟩
  · rintro ⟨p, hp, hrange, haction⟩
    exact ⟨p, hp, edit.range, hrange, by rw [← haction]⟩

/-- Only a replacement puts lines in. -/
theorem Action.mem_insertion_iff {action : Action} {line : String} :
    line ∈ action.insertion ↔ ∃ put, action = .replace put ∧ line ∈ put := by
  cases action with
  | delete => simp [insertion]
  | replace put => simp [insertion]

/-- **The lines that come out**: those that were there outside all ranges, and those that regions
with a range put in. -/
theorem mem_revisedLines_iff_ranges {lines : List String} (h : scanPlan lines regions = .ok scans)
    {line : String} :
    line ∈ revisedLines lines regions scans ↔
      (∃ i : Nat, lines[i]? = some line ∧ ∀ range ∈ foundRanges scans, ¬ range.Holds i) ∨
        ∃ p ∈ regions.zip scans, p.2.ranges ≠ [] ∧ line ∈ p.1.action.insertion := by
  have hlength := (planSearch_of_scanPlan h).length_eq
  have hkept : ∀ i, (∀ edit ∈ editsOf regions scans, ¬ edit.range.Holds i) ↔
      ∀ range ∈ foundRanges scans, ¬ range.Holds i := fun i =>
    forall_editsOf_iff (P := fun range => ¬ range.Holds i) hlength
  have hput : (∃ edit ∈ editsOf regions scans, line ∈ edit.action.insertion) ↔
      ∃ p ∈ regions.zip scans, p.2.ranges ≠ [] ∧ line ∈ p.1.action.insertion := by
    constructor
    · rintro ⟨edit, hedit, hin⟩
      obtain ⟨p, hp, hrange, haction⟩ := mem_editsOf_iff.mp hedit
      exact ⟨p, hp, List.ne_nil_of_mem hrange, by rw [← haction]; exact hin⟩
    · rintro ⟨p, hp, hne, hin⟩
      obtain ⟨range, hrange⟩ := List.exists_mem_of_ne_nil _ hne
      exact ⟨⟨range, p.1.action⟩, mem_editsOf_iff.mpr ⟨p, hp, hrange, rfl⟩, hin⟩
  rw [revisedLines, (compatible_editsOf h).mem_images_iff, hput]
  simp only [hkept]

/-- The same, said of the regions that occur. -/
theorem mem_revisedLines_iff {lines : List String} (h : scanPlan lines regions = .ok scans)
    {line : String} :
    line ∈ revisedLines lines regions scans ↔
      (∃ i : Nat, lines[i]? = some line ∧ ∀ range ∈ foundRanges scans, ¬ range.Holds i) ∨
        ∃ region ∈ regions, region.OccursIn lines ∧ line ∈ region.action.insertion := by
  have hsearch := planSearch_of_scanPlan h
  rw [mem_revisedLines_iff_ranges h]
  refine or_congr_right ?_
  constructor
  · rintro ⟨p, hp, hne, hin⟩
    have hfound := RegionScan.found_iff.mpr hne
    exact ⟨p.1, (List.of_mem_zip hp).1,
      (found_iff_occursIn (hsearch.search_of_mem_zip p hp)).mp hfound, hin⟩
  · rintro ⟨region, hregion, hoccurs, hin⟩
    obtain ⟨scan, hp⟩ := hsearch.exists_scan hregion
    have hfound := (found_iff_occursIn (hsearch.search_of_mem_zip _ hp)).mpr hoccurs
    exact ⟨_, hp, RegionScan.found_iff.mp hfound, hin⟩

/--
**What is left of deleted regions.**  If a plan was carried out, no line of the output opens a
deleted region that was found.  A deleted region that was missing is opened by a line of the
output exactly if a region that was found and replaced puts in a line that opens it.
-/
theorem revise_removes {doc : Document} {regions : List Region} {revision : Revision}
    (h : doc.revise regions = .ok revision) :
    ∀ region ∈ regions, region.action = .delete →
      (region.OccursIn doc.lines → ¬ region.OccursIn revision.output.lines) ∧
      (¬ region.OccursIn doc.lines →
        (region.OccursIn revision.output.lines ↔
          ∃ other ∈ regions, other.OccursIn doc.lines ∧
            ∃ lines, other.action = .replace lines ∧ region.OccursIn lines)) := by
  intro region hregion hdelete
  have hrevised := revised_of_revise h
  have hsearch := planSearch_of_scanPlan hrevised.scanned
  obtain ⟨scan, hp⟩ := hsearch.exists_scan hregion
  have hfound := found_iff_occursIn (hsearch.search_of_mem_zip _ hp)
  constructor
  · intro hoccurs
    exact residual_eq_none_iff.mp hrevised.verified _ hp (hfound.mpr hoccurs) hdelete
  · intro hmissing
    have hout : revision.output.lines = revisedLines doc.lines regions revision.scans := by
      rw [hrevised.output_eq, Document.lines_withLines]
    constructor
    · rintro ⟨line, hline, hopens⟩
      rw [hout, mem_revisedLines_iff hrevised.scanned] at hline
      rcases hline with ⟨i, hi, -⟩ | ⟨other, hother, hoccurs, hin⟩
      · exact absurd ⟨line, List.mem_of_getElem? hi, hopens⟩ hmissing
      · refine ⟨other, hother, hoccurs, ?_⟩
        cases haction : other.action with
        | delete => simp [haction, Action.insertion] at hin
        | replace lines =>
            rw [haction] at hin
            exact ⟨lines, rfl, line, hin, hopens⟩
    · rintro ⟨other, hother, hoccurs, lines, haction, line, hline, hopens⟩
      refine ⟨line, ?_, hopens⟩
      rw [hout, mem_revisedLines_iff hrevised.scanned]
      exact Or.inr ⟨other, hother, hoccurs, by rw [haction]; exact hline⟩

/-- The one line that mentions a text, if there is one. -/
def mention (text : String) (action : Action) : Region where
  name := text
  start := .contains text
  ending := .singleLine
  companion := none
  multiplicity := .first
  required := false
  action := action

/-- A use is deleted, and so is a call that is missing until another one is replaced by it. -/
theorem revise_removes_use_and_call :
    let doc := Document.parse "use x\nold()\nkept\n"
    let regions := [mention "use " .delete, mention "gone()" .delete,
      mention "old()" (.replace ["gone()"])]
    ∃ revision, doc.revise regions = .ok revision ∧
      ¬ (mention "use " .delete).OccursIn revision.output.lines ∧
      (mention "gone()" .delete).OccursIn revision.output.lines := by
  intro doc regions
  have hscan : scanPlan doc.lines regions
      = .ok [⟨"use ", [⟨"use ", 0, 1⟩]⟩, ⟨"gone()", []⟩, ⟨"old()", [⟨"old()", 1, 2⟩]⟩] := by
    decide +kernel
  have hgone : residual (revisedLines doc.lines regions
      [⟨"use ", [⟨"use ", 0, 1⟩]⟩, ⟨"gone()", []⟩, ⟨"old()", [⟨"old()", 1, 2⟩]⟩]) regions
      [⟨"use ", [⟨"use ", 0, 1⟩]⟩, ⟨"gone()", []⟩, ⟨"old()", [⟨"old()", 1, 2⟩]⟩] = none := by
    decide +kernel
  have hrevise := revise_eq_ok hscan hgone
  have huse := revise_removes hrevise (mention "use " .delete) (by simp [regions]) rfl
  have hcall := revise_removes hrevise (mention "gone()" .delete) (by simp [regions]) rfl
  refine ⟨_, hrevise, huse.1 (by decide +kernel), (hcall.2 (by decide +kernel)).mpr ?_⟩
  exact ⟨mention "old()" (.replace ["gone()"]), by simp [regions], by decide +kernel,
    ["gone()"], rfl, by decide +kernel⟩

/-- So a deleted region can open a line of the output: it was missing, and a replacement put the
line in. -/
theorem deleted_region_occurs_in_output :
    let regions := [mention "gone()" .delete, mention "old()" (.replace ["gone()"])]
    ∃ revision, (Document.parse "old()\n").revise regions = .ok revision ∧
      ∃ region ∈ regions, region.action = .delete ∧
        ∃ line ∈ revision.output.lines, region.opens line = true := by
  intro regions
  have hscan : scanPlan (Document.parse "old()\n").lines regions
      = .ok [⟨"gone()", []⟩, ⟨"old()", [⟨"old()", 0, 1⟩]⟩] := by decide +kernel
  have hgone : residual (revisedLines (Document.parse "old()\n").lines regions
      [⟨"gone()", []⟩, ⟨"old()", [⟨"old()", 0, 1⟩]⟩]) regions
      [⟨"gone()", []⟩, ⟨"old()", [⟨"old()", 0, 1⟩]⟩] = none := by decide +kernel
  have hrevise := revise_eq_ok hscan hgone
  exact ⟨_, hrevise, mention "gone()" .delete, by simp [regions], rfl, by decide +kernel⟩

end LineCut
