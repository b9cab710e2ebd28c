/-
Carrying out a plan a second time.

A plan that only deletes leaves nothing behind for itself.  A region that was found is gone, since
the last look has seen to it.  A region that was missing has not been looked for again, but then it
has no need to be: where nothing is put in, every line that comes out is one that was there, and no
line that was there opens it.  So all regions are missing from the output, and what a plan does with
regions that are all missing does not depend on anything else.  It fails at the first one that is
required, and if there is none it succeeds and leaves the document as it is.
-/
import LineCut.Proofs.Removal

namespace LineCut

variable {lines : List String} {regions : List Region}

/-! ### Regions that are all missing -/

/-- What becomes of a plan whose regions are all missing. -/
def scanOfMissing (lines : List String) (regions : List Region) :
    Except Fault (List RegionScan) :=
  match regions.find? (·.required) with
  | some region => .error (.startNotFound region.name lines.length)
  | none => .ok (regions.map fun region => ⟨region.name, []⟩)

/-- **The first required region stops the scan, and otherwise nothing is found.**  A missing region
has no ranges, so nothing is ever compared. -/
theorem scanAfter_of_missing {earlier : List LineRange}
    (h : ∀ region ∈ regions, ¬ region.OccursIn lines) :
    scanAfter lines earlier regions = scanOfMissing lines regions := by
  induction regions generalizing earlier with
  | nil => rfl
  | cons region rest ih =>
      have hmissing := scanRegion_of_missing (h region (by simp))
      have hrest : scanAfter lines (earlier ++ []) rest = scanOfMissing lines rest :=
        ih fun other hother => h other (by simp [hother])
      have hclash : clash earlier [] = none := rfl
      cases hrequired : region.required with
      | true => simp [scanAfter, scanOptional, scanOfMissing, hmissing, hrequired]
      | false =>
          simp only [scanAfter, scanOptional, hmissing, hrequired, hclash, hrest, scanOfMissing,
            List.find?_cons, Bool.false_eq_true, if_false]
          cases rest.find? (·.required) with
          | none => rfl
          | some other => rfl

/-- **A plan whose regions are all missing changes nothing**, if none of them is required. -/
theorem revise_of_missing {doc : Document} (h : ∀ region ∈ regions, ¬ region.OccursIn doc.lines) :
    doc.revise regions =
      match regions.find? (·.required) with
      | some region => .error (.startNotFound region.name doc.lines.length)
      | none => .ok ⟨regions.map fun region => ⟨region.name, []⟩, doc, ⟨0, 0⟩⟩ := by
  have hscan : scanPlan doc.lines regions = scanOfMissing doc.lines regions :=
    scanAfter_of_missing h
  cases hfirst : regions.find? (·.required) with
  | some region =>
      simp only [scanOfMissing, hfirst] at hscan
      simp only [Document.revise, hscan]
  | none =>
      simp only [scanOfMissing, hfirst] at hscan
      have hnone : editsOf regions (regions.map fun region => ⟨region.name, []⟩) = [] := by
        rw [← List.map_eq_nil_iff (f := (·.range)), ranges_editsOf (by simp)]
        simp [foundRanges]
      have hlines : revisedLines doc.lines regions (regions.map fun region => ⟨region.name, []⟩)
          = doc.lines := by
        rw [revisedLines, hnone, Edit.images_nil]
      have hgone : residual doc.lines regions (regions.map fun region => ⟨region.name, []⟩)
          = none :=
        residual_eq_none_iff.mpr fun p hp _ _ => h p.1 (List.of_mem_zip hp).1
      rw [← hlines] at hgone
      rw [revise_eq_ok hscan hgone, hlines, hnone]
      rfl

/-! ### Plans that only delete -/

/-- Where nothing is put in, every line that comes out was there. -/
theorem mem_lines_of_mem_output {doc : Document} {revision : Revision}
    (hall : ∀ region ∈ regions, region.action = .delete) (h : Revised doc regions revision)
    {line : String} (hline : line ∈ revision.output.lines) : line ∈ doc.lines := by
  rw [h.output_eq, Document.lines_withLines, mem_revisedLines_iff h.scanned] at hline
  rcases hline with ⟨i, hi, -⟩ | ⟨region, hregion, -, hin⟩
  · exact List.mem_of_getElem? hi
  · obtain ⟨put, hreplace, -⟩ := Action.mem_insertion_iff.mp hin
    simp [hall region hregion] at hreplace

/-- **All regions of such a plan are missing from its output**, whether they were found or not. -/
theorem not_occursIn_output {doc : Document} {revision : Revision}
    (hall : ∀ region ∈ regions, region.action = .delete) (h : Revised doc regions revision) :
    ∀ region ∈ regions, ¬ region.OccursIn revision.output.lines := by
  intro region hregion hoccurs
  obtain ⟨scan, hp⟩ := (planSearch_of_scanPlan h.scanned).exists_scan hregion
  have hsearch := (planSearch_of_scanPlan h.scanned).search_of_mem_zip _ hp
  obtain ⟨line, hline, hopens⟩ := hoccurs
  have hfound : scan.found = true :=
    (found_iff_occursIn hsearch).mpr ⟨line, mem_lines_of_mem_output hall h hline, hopens⟩
  exact residual_eq_none_iff.mp h.verified _ hp hfound (hall region hregion) ⟨line, hline, hopens⟩

/--
**Removal is done once and for all.**  If a plan that only deletes was carried out, none of its
regions is found in the output.  Carried out on the output, the plan fails at its first required
region, and if it has none it finds nothing, removes and puts in nothing, and leaves the document
as it is.
-/
theorem revise_repeated {doc : Document} {regions : List Region} {revision : Revision}
    (hall : ∀ region ∈ regions, region.action = .delete)
    (h : doc.revise regions = .ok revision) :
    (∀ region ∈ regions, scanRegion revision.output.lines region =
      .error (.startNotFound region.name revision.output.lines.length)) ∧
    revision.output.revise regions =
      match regions.find? (·.required) with
      | some region => .error (.startNotFound region.name revision.output.lines.length)
      | none => .ok ⟨regions.map fun region => ⟨region.name, []⟩, revision.output, ⟨0, 0⟩⟩ := by
  have hmissing := not_occursIn_output hall (revised_of_revise h)
  exact ⟨fun region hregion => scanRegion_of_missing (hmissing region hregion),
    revise_of_missing hmissing⟩

/-- The use is optional and the call is required, so it is the call that stops the second run. -/
theorem revise_repeated_use_and_call :
    let doc := Document.parse "use x\nold()\nkept\n"
    let regions := [mention "use " .delete, mention "gone()" .delete,
      { mention "old()" .delete with required := true }]
    ∃ revision, doc.revise regions = .ok revision ∧
      (∀ region ∈ regions, region.action = .delete) ∧
      scanRegion revision.output.lines (mention "gone()" .delete) =
        .error (.startNotFound "gone()" revision.output.lines.length) ∧
      revision.output.revise regions =
        .error (.startNotFound "old()" revision.output.lines.length) := by
  intro doc regions
  have hall : ∀ region ∈ regions, region.action = .delete := by decide +kernel
  let scans : List RegionScan :=
    [⟨"use ", [⟨"use ", 0, 1⟩]⟩, ⟨"gone()", []⟩, ⟨"old()", [⟨"old()", 1, 2⟩]⟩]
  have hscan : scanPlan doc.lines regions = .ok scans := by decide +kernel
  have hgone : residual (revisedLines doc.lines regions scans) regions scans = none := by
    decide +kernel
  have hrevise := revise_eq_ok hscan hgone
  obtain ⟨hmissing, hagain⟩ := revise_repeated hall hrevise
  exact ⟨_, hrevise, hall, hmissing _ (by simp [regions]), hagain⟩

end LineCut
