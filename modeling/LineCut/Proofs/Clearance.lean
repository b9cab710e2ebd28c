/-
When a plan can be carried out.

A plan whose scan succeeds can still fail at the last look, and that look goes over lines that no
one has seen before: what is left of the text together with all that was put in.  Whether it finds
something can be said of the text as it was.  A region that was found and is deleted is `Cleared` if
it is opened neither by a line outside all ranges, those of other regions included, nor by a line
that some region with a range puts in.  A line inside a range does no harm, whichever region the
range belongs to.

So a plan can be carried out exactly if its scan succeeds and every such region is cleared.
Otherwise the fault names the first region, in the order of the plan, that is not, and the first
line of what came out that opens it.
-/
import LineCut.Proofs.Removal

namespace LineCut

variable {lines output : List String} {regions : List Region} {scans : List RegionScan}

/-- The region was found and is deleted. -/
def Deleted (p : Region × RegionScan) : Prop :=
  p.1.action = .delete ∧ p.2.ranges ≠ []

/-- No line that stays and no line that is put in opens the region. -/
structure Cleared (lines : List String) (regions : List Region) (scans : List RegionScan)
    (region : Region) : Prop where
  /-- A line outside all ranges stays. -/
  kept : ∀ (i : Nat) (line : String), lines[i]? = some line →
    (∀ range ∈ foundRanges scans, ¬ range.Holds i) → region.opens line = false
  /-- A region that is replaced puts its lines in if it has a range. -/
  putIn : ∀ p ∈ regions.zip scans, p.2.ranges ≠ [] → ∀ put, p.1.action = .replace put →
    ∀ line ∈ put, region.opens line = false

/-- **A region is cleared exactly if no line that comes out opens it.** -/
theorem cleared_iff (h : scanPlan lines regions = .ok scans) {region : Region} :
    Cleared lines regions scans region ↔
      ¬ region.OccursIn (revisedLines lines regions scans) := by
  rw [Region.not_occursIn_iff]
  constructor
  · rintro ⟨hkept, hput⟩ line hline
    rcases (mem_revisedLines_iff_ranges h).mp hline with ⟨i, hi, hout⟩ | ⟨p, hp, hne, hin⟩
    · exact hkept i line hi hout
    · obtain ⟨put, haction, hline⟩ := Action.mem_insertion_iff.mp hin
      exact hput p hp hne put haction line hline
  · intro hnone
    refine ⟨?_, ?_⟩
    · intro i line hi hout
      exact hnone line ((mem_revisedLines_iff_ranges h).mpr (Or.inl ⟨i, hi, hout⟩))
    · intro p hp hne put haction line hline
      have hin := Action.mem_insertion_iff.mpr ⟨put, haction, hline⟩
      exact hnone line ((mem_revisedLines_iff_ranges h).mpr (Or.inr ⟨p, hp, hne, hin⟩))

/-! ### What the last look finds

It goes through the regions in order and through the lines from the top, and stops at the first
that it finds in either.
-/

theorem deleted_iff {p : Region × RegionScan} :
    Deleted p ↔ (p.2.found && p.1.action == .delete) = true := by
  rw [Bool.and_eq_true, RegionScan.found_iff, beq_iff_eq, Deleted, and_comm]

/-- The last look finds nothing exactly if nothing that came out opens a deleted region. -/
theorem residual_eq_none_iff_deleted :
    residual output regions scans = none ↔
      ∀ p ∈ regions.zip scans, Deleted p → ¬ p.1.OccursIn output := by
  rw [residual_eq_none_iff]
  simp only [Deleted, RegionScan.found_iff]
  exact forall₂_congr fun p hp => ⟨fun h hd => h hd.2 hd.1, fun h hf hd => h ⟨hd, hf⟩⟩

/-- **What the last look finds is the first region, and the first line that opens it.** -/
theorem residual_eq_some {name : String} {line : Nat}
    (h : residual output regions scans = some (name, line)) :
    ∃ before p after, regions.zip scans = before ++ p :: after ∧
      (∀ q ∈ before, Deleted q → ¬ q.1.OccursIn output) ∧ Deleted p ∧ p.1.name = name ∧
      findFrom p.1.opens output 0 = some line := by
  fun_induction residual output regions scans with
  | case1 region regions scan scans hcond found hfound =>
      cases h
      exact ⟨[], (region, scan), regions.zip scans, rfl, by simp, deleted_iff.mpr hcond, rfl,
        hfound⟩
  | case2 region regions scan scans hcond hnone ih =>
      obtain ⟨before, p, after, hzip, hbefore, hrest⟩ := ih h
      refine ⟨(region, scan) :: before, p, after, by simp [hzip], ?_, hrest⟩
      rw [findFrom_eq_none_iff, List.drop_zero, ← Region.not_occursIn_iff] at hnone
      intro q hq
      rcases List.mem_cons.mp hq with rfl | hlater
      · exact fun _ => hnone
      · exact hbefore q hlater
  | case3 region regions scan scans hcond ih =>
      obtain ⟨before, p, after, hzip, hbefore, hrest⟩ := ih h
      refine ⟨(region, scan) :: before, p, after, by simp [hzip], ?_, hrest⟩
      intro q hq
      rcases List.mem_cons.mp hq with rfl | hlater
      · exact fun hdeleted => absurd (deleted_iff.mp hdeleted) hcond
      · exact hbefore q hlater
  | case4 => cases h

/--
**When a plan can be carried out.**  A revision succeeds exactly if the scan does and every deleted
region that was found is cleared.  If the scan succeeds and some such region is not, the fault is
that of the first one that is not, in the order of the plan, and it reports the first line of the
edited text that opens it, counted from one.
-/
theorem revise_ok_iff_cleared (doc : Document) (regions : List Region) :
    ((∃ revision, doc.revise regions = .ok revision) ↔
      ∃ scans, scanPlan doc.lines regions = .ok scans ∧
        ∀ p ∈ regions.zip scans, Deleted p → Cleared doc.lines regions scans p.1) ∧
    ∀ scans, scanPlan doc.lines regions = .ok scans →
      ¬ (∀ p ∈ regions.zip scans, Deleted p → Cleared doc.lines regions scans p.1) →
      ∃ before p after out stats line fault,
        regions.zip scans = before ++ p :: after ∧
        (∀ q ∈ before, Deleted q → Cleared doc.lines regions scans q.1) ∧
        Deleted p ∧ ¬ Cleared doc.lines regions scans p.1 ∧
        applyEdits doc.lines (editsOf regions scans) = .ok (out, stats) ∧
        (∃ text, out[line]? = some text ∧ p.1.opens text = true) ∧
        (∀ i < line, ∀ text, out[i]? = some text → p.1.opens text = false) ∧
        doc.revise regions = .error fault ∧ fault.code = "region.residual_match" ∧
        fault.details = .obj [("region", .str p.1.name), ("line", .nat (line + 1))] := by
  constructor
  · simp only [revise_eq_ok_iff, residual_eq_none_iff_deleted]
    constructor
    · rintro ⟨revision, scans, hscan, hgone, -⟩
      exact ⟨scans, hscan, fun p hp hdeleted => (cleared_iff hscan).mpr (hgone p hp hdeleted)⟩
    · rintro ⟨scans, hscan, hcleared⟩
      exact ⟨_, scans, hscan, fun p hp hd => (cleared_iff hscan).mp (hcleared p hp hd), rfl⟩
  · intro scans hscan huncleared
    cases hresidual : residual (revisedLines doc.lines regions scans) regions scans with
    | none =>
        rw [residual_eq_none_iff_deleted] at hresidual
        exact absurd (fun p hp hd => (cleared_iff hscan).mpr (hresidual p hp hd)) huncleared
    | some found =>
        obtain ⟨name, line⟩ := found
        have hrevise : doc.revise regions = .error (.residualMatch name line) := by
          rw [revise_of_scanPlan hscan, hresidual]
        obtain ⟨before, p, after, hzip, hbefore, hdeleted, rfl, hfirst⟩ :=
          residual_eq_some hresidual
        obtain ⟨-, ⟨text, htext, hopens⟩, hearlier⟩ := findFrom_eq_some_iff.mp hfirst
        have hoccurs : p.1.OccursIn (revisedLines doc.lines regions scans) :=
          ⟨text, List.mem_of_getElem? htext, hopens⟩
        refine ⟨before, p, after, _, _, line, _, hzip, ?_, hdeleted, ?_,
          applyEdits_eq_ok_iff.mpr ⟨compatible_editsOf hscan, rfl⟩, ⟨text, htext, hopens⟩, ?_,
          hrevise, rfl, rfl⟩
        · exact fun q hq hd => (cleared_iff hscan).mpr (hbefore q hq hd)
        · exact fun hcleared => (cleared_iff hscan).mp hcleared hoccurs
        · exact fun i hi => hearlier i (Nat.zero_le _) hi

/-- A use is put in for a call, after another use has been deleted. -/
theorem revise_ok_iff_cleared_use_put_in :
    let doc := Document.parse "use x\nold()\nkept\n"
    let regions := [mention "old()" (.replace ["new()", "use y"]), mention "use " .delete]
    let scans := [⟨"old()", [⟨"old()", 1, 2⟩]⟩, ⟨"use ", [⟨"use ", 0, 1⟩]⟩]
    scanPlan doc.lines regions = .ok scans ∧
      ¬ (∀ p ∈ regions.zip scans, Deleted p → Cleared doc.lines regions scans p.1) ∧
      ∃ p ∈ regions.zip scans, ∃ line fault, Deleted p ∧ doc.revise regions = .error fault ∧
        fault.details = .obj [("region", .str p.1.name), ("line", .nat (line + 1))] := by
  intro doc regions scans
  have hscan : scanPlan doc.lines regions = .ok scans := by decide +kernel
  have huncleared :
      ¬ (∀ p ∈ regions.zip scans, Deleted p → Cleared doc.lines regions scans p.1) := by
    intro hall
    have huse := hall (mention "use " .delete, ⟨"use ", [⟨"use ", 0, 1⟩]⟩)
      (by simp [regions, scans]) ⟨rfl, by simp⟩
    have hput := huse.putIn (mention "old()" (.replace ["new()", "use y"]), _)
      (List.mem_cons_self) (by simp) _ rfl "use y" (by simp)
    exact absurd hput (by decide +kernel)
  obtain ⟨before, p, after, out, stats, line, fault, hzip, -, hdeleted, -, -, -, -, hrevise, -,
    hdetails⟩ := (revise_ok_iff_cleared doc regions).2 scans hscan huncleared
  exact ⟨hscan, huncleared, p, by simp [hzip], line, fault, hdeleted, hrevise, hdetails⟩

end LineCut
