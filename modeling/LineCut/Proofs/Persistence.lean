/-
What is left of a deleted region in the file.

The last look goes over the lines that came out, and those are not what is in the file afterwards.
They are written, and whoever looks into the file reads lines again.  For most lines that makes no
difference.  But a line that breaks in writing is read as other lines than the ones that were looked
at, and a region may be opened by one of them that no line of the output opened.  Nothing else can
bring a region back: if none of the lines that break is read as a line that opens it, then a scan of
the file finds the region no more.

There are two ways for such a line to get into the output.  A replacement is written as the plan has
it, and the plan may have a line feed in it.  And a text whose lines end with and without a carriage
return may have a line that keeps one, behind which a plain line feed is written.
-/
import LineCut.Proofs.Atomicity
import LineCut.Proofs.Removal
import LineCut.Proofs.Rereading

namespace LineCut

variable {refuses : Tree → Tree.Request → Option DiskError} {tree after : Tree} {path text : String}
  {plan : Plan} {regions : List Region} {revision : Revision} {report : ApplyReport}

/-! ### From the output to the file -/

/-- **A region that is gone from the lines that came out is gone from the text that is written**, if
no line that breaks is read as one that opens it. -/
theorem not_occursIn_parse_render {doc : Document} {region : Region}
    (hgone : ¬ region.OccursIn doc.lines)
    (hbroken : ∀ q ∈ doc.written, Document.Breaks q → ∀ line ∈ Document.readAs q,
      region.opens line = false) :
    ¬ region.OccursIn (Document.parse doc.render).lines := by
  rw [Region.not_occursIn_iff] at hgone ⊢
  intro line hline
  rcases Document.mem_lines_parse_render hline with hthere | ⟨q, hq, hbreaks, hread⟩
  · exact hgone line hthere
  · exact hbroken q hq hbreaks line hread

/-- After a run that was asked to write the file holds the document that came of the plan, or the
text that it held before if that document is the same. -/
theorem holdsText_of_applyFile
    (hrun : applyFile (Tree.refusingDisk refuses) path plan true tree = (.ok report, after))
    (hprepared : Prepared tree path plan text revision) :
    HoldsText after path revision.output.render ∨
      revision.output = .parse text ∧ HoldsText after path text := by
  have hcomes := run_applyFile refuses tree path plan true
  rw [hrun] at hcomes
  cases hcomes with
  | keeps hother hkeeps =>
      obtain ⟨rfl, rfl⟩ := hprepared.unique hother
      rcases hkeeps with hdry | hsame
      · cases hdry
      · exact Or.inr ⟨hsame, hprepared.holds⟩
  | replaces hother _ _ _ hreplaces =>
      obtain ⟨rfl, rfl⟩ := hprepared.unique hother
      exact Or.inl (.of_read hreplaces.read_eq)

/-- Each region is reported with what its scan found. -/
theorem zip_regionReports (regions : List Region) (scans : List RegionScan) :
    regions.zip (regionReports regions scans) =
      (regions.zip scans).map fun p => (p.1, .of p.1 p.2) := by
  unfold regionReports
  induction regions generalizing scans with
  | nil => rfl
  | cons region rest ih =>
      cases scans with
      | nil => rfl
      | cons scan more => simp [ih]

/--
**What is deleted stays away from the file.**  If a plan was carried out on a file, then a scan of
what the file holds now finds no deleted region that the report says was found, unless a line that
breaks in writing is read as one that opens it.
-/
theorem applyFile_removes
    (hrun : applyFile (Tree.refusingDisk refuses) path plan true tree = (.ok report, after)) :
    ∃ regions text revision content, plan.compile = .ok regions ∧ HoldsText tree path text ∧
      (Document.parse text).revise regions = .ok revision ∧ HoldsText after path content ∧
      ∀ p ∈ regions.zip report.regions, p.1.action = .delete → p.2.found = true →
        (∀ q ∈ revision.output.written, Document.Breaks q → ∀ line ∈ Document.readAs q,
          p.1.opens line = false) →
        scanRegion (Document.parse content).lines p.1 =
          .error (.startNotFound p.1.name (Document.parse content).lines.length) := by
  obtain ⟨text, regions, revision, htext, hcompile, hrevise, hreport⟩ := report_of_applyFile hrun
  have hreports : report.regions = regionReports regions revision.scans := by
    rw [hreport]
    rfl
  have hgone : ∀ p ∈ regions.zip report.regions, p.1.action = .delete → p.2.found = true →
      ¬ p.1.OccursIn revision.output.lines := by
    intro p hp hdelete hfound
    rw [hreports, zip_regionReports, List.mem_map] at hp
    obtain ⟨q, hq, rfl⟩ := hp
    exact residual_eq_none_iff.mp (revised_of_revise hrevise).verified q hq hfound hdelete
  rcases holdsText_of_applyFile hrun ⟨htext, regions, hcompile, hrevise⟩ with
    hwritten | ⟨hsame, hkept⟩
  · refine ⟨regions, text, revision, _, hcompile, htext, hrevise, hwritten, ?_⟩
    intro p hp hdelete hfound hbroken
    exact scanRegion_of_missing (not_occursIn_parse_render (hgone p hp hdelete hfound) hbroken)
  · refine ⟨regions, text, revision, text, hcompile, htext, hrevise, hkept, ?_⟩
    intro p hp hdelete hfound _
    rw [← hsame]
    exact scanRegion_of_missing (hgone p hp hdelete hfound)

/-! ### Runs that succeed -/

/-- A run succeeds if the plan can be carried out and changes the text, and nothing stands in the
way of reading the file or of writing beside it. -/
theorem exists_applyFile (hgranted : refuses tree (.read path) = none)
    (htext : HoldsText tree path text) (hcompile : plan.compile = .ok regions)
    (hrevise : (Document.parse text).revise regions = .ok revision)
    (hchanged : revision.output ≠ .parse text)
    (haccepts : Accepts refuses tree path revision.output.render.toUTF8) :
    ∃ report after,
      applyFile (Tree.refusingDisk refuses) path plan true tree = (.ok report, after) ∧
        report.regions = regionReports regions revision.scans ∧
        HoldsText after path revision.output.render := by
  have hprepared : Prepared tree path plan text revision := ⟨htext, regions, hcompile, hrevise⟩
  obtain ⟨report, after, hrun⟩ : ∃ report after,
      applyFile (Tree.refusingDisk refuses) path plan true tree = (.ok report, after) := by
    have hcomes := run_applyFile refuses tree path plan true
    generalize applyFile (Tree.refusingDisk refuses) path plan true tree = outcome at hcomes ⊢
    cases hcomes with
    | fails hcause => exact absurd haccepts (hcause _ _ hprepared hgranted).2.2
    | keeps => exact ⟨_, _, rfl⟩
    | replaces => exact ⟨_, _, rfl⟩
  refine ⟨report, after, hrun, ?_, ?_⟩
  · obtain ⟨other, others, another, hother, hcompile', hrevise', hreport⟩ :=
      report_of_applyFile hrun
    obtain ⟨rfl, rfl⟩ := hprepared.unique ⟨hother, others, hcompile', hrevise'⟩
    rw [hcompile] at hcompile'
    cases hcompile'
    rw [hreport]
    rfl
  · rcases holdsText_of_applyFile hrun hprepared with hwritten | ⟨hsame, -⟩
    · exact hwritten
    · exact absurd hsame hchanged

/-- Delete the first use, and put lines in for the first call. -/
def dropUseAndCall (put : List String) : Plan where
  regions := [{ name := "use", start := .startsWith "use ", ending := .singleLine },
    { name := "call", start := .contains "old()", ending := .singleLine, action := .replace put }]

/-- The use and the call. -/
def useAndCall (put : List String) : List Region :=
  [⟨"use", .startsWith "use ", .singleLine, none, .first, true, .delete⟩,
    ⟨"call", .contains "old()", .singleLine, none, .first, true, .replace put⟩]

/-- A line that breaks is put in, but none of the lines it is read as is a use. -/
theorem applyFile_removes_use_and_call :
    let tree := notesAtHome "use x\nold()\n"
    let path := "/home/me/notes"
    let plan := dropUseAndCall ["new()\nend()"]
    let regions := useAndCall ["new()\nend()"]
    let reports : List RegionReport :=
      [⟨"use", true, [⟨1, 1, 0, 1, 1⟩], 1, 0⟩, ⟨"call", true, [⟨2, 2, 1, 2, 1⟩], 1, 1⟩]
    ∃ report after,
      applyFile Tree.disk path plan true tree = (.ok report, after) ∧
      plan.compile = .ok regions ∧ report.regions = reports ∧
      HoldsText after path "new()\nend()\n" ∧
      (regions[0], reports[0]) ∈ regions.zip report.regions ∧ regions[0].action = .delete ∧
      scanRegion (Document.parse "new()\nend()\n").lines regions[0] =
        .error (.startNotFound "use" 2) := by
  intro tree path plan regions reports
  rw [← Tree.refusingDisk_none]
  let doc := Document.parse "use x\nold()\n"
  let scans : List RegionScan := [⟨"use", [⟨"use", 0, 1⟩]⟩, ⟨"call", [⟨"call", 1, 2⟩]⟩]
  have hcompile : plan.compile = .ok regions := rfl
  have hscan : scanPlan doc.lines regions = .ok scans := by decide +kernel
  have hgone : residual (revisedLines doc.lines regions scans) regions scans = none := by
    decide +kernel
  have hrendered : (doc.withLines (revisedLines doc.lines regions scans)).render =
      "new()\nend()\n" := by
    decide +kernel
  have hrevise := revise_eq_ok hscan hgone
  have htext : HoldsText tree path "use x\nold()\n" := .of_read (by decide +kernel)
  have haccepts : Accepts (fun _ _ => none) tree path
      (doc.withLines (revisedLines doc.lines regions scans)).render.toUTF8 :=
    ⟨"/home/me/notes.tmp", _, by decide +kernel, rfl, rfl⟩
  obtain ⟨report, after, hrun, hreports, hholds⟩ :=
    exists_applyFile rfl htext hcompile hrevise (by decide +kernel) haccepts
  rw [hrendered] at hholds
  obtain ⟨others, other, revision, content, hcompile', hother, hrevise', hcontent, hscanned⟩ :=
    applyFile_removes hrun
  cases htext.unique hother
  cases hholds.unique hcontent
  rw [hcompile] at hcompile'
  cases hcompile'
  rw [hrevise] at hrevise'
  cases hrevise'
  have hmem : (regions[0], reports[0]) ∈ regions.zip report.regions := by
    rw [hreports]
    exact List.mem_cons_self
  refine ⟨report, after, hrun, hcompile, hreports, hholds, hmem, rfl, ?_⟩
  refine hscanned _ hmem rfl rfl ?_
  decide +kernel

/-! ### Regions that come back -/

/-- A run that was asked to write succeeds and reports a deleted region as found, and a scan of what
the file holds afterwards finds it again. -/
def FoundAgain (tree : Tree) (path : String) (plan : Plan) : Prop :=
  ∃ report after regions content,
    applyFile Tree.disk path plan true tree = (.ok report, after) ∧
    plan.compile = .ok regions ∧ HoldsText after path content ∧
    ∃ p ∈ regions.zip report.regions, p.1.action = .delete ∧ p.2.found = true ∧
      ∃ ranges, scanRegion (Document.parse content).lines p.1 = .ok ranges

theorem foundAgain_of_revise (htext : HoldsText tree path text)
    (hcompile : plan.compile = .ok regions)
    (hrevise : (Document.parse text).revise regions = .ok revision)
    (hchanged : revision.output ≠ .parse text)
    (haccepts : Accepts (fun _ _ => none) tree path revision.output.render.toUTF8)
    {p : Region × RegionScan} (hp : p ∈ regions.zip revision.scans) (hdelete : p.1.action = .delete)
    (hfound : p.2.found = true)
    (hagain : ∃ ranges, scanRegion (Document.parse revision.output.render).lines p.1 = .ok ranges) :
    FoundAgain tree path plan := by
  obtain ⟨report, after, hrun, hreports, hwritten⟩ :=
    exists_applyFile rfl htext hcompile hrevise hchanged haccepts
  refine ⟨report, after, regions, _, hrun, hcompile, hwritten, (p.1, .of p.1 p.2), ?_, hdelete,
    hfound, hagain⟩
  rw [hreports, zip_regionReports]
  exact List.mem_map_of_mem hp

/-- Delete the first line that mentions a text and has no carriage return in it. -/
def dropPlain (text : String) : Plan where
  regions := [{ name := "plain", start := .all [.contains text, .negation (.contains "\r")]
                ending := .singleLine }]

/-- So a region that was deleted can be in the file afterwards, in either way: a replacement has a
line feed in it and what stands behind that is another use, or the line that is left loses its
carriage return to the terminator. -/
theorem deleted_region_found_in_file :
    FoundAgain (Tree.empty.addFile ["notes"] "use x\nold()\n".toUTF8) "notes"
      (dropUseAndCall ["new()\nuse y"]) ∧
    FoundAgain (Tree.empty.addFile ["notes"] "x\nx\r\r\nkept\n".toUTF8) "notes"
      (dropPlain "x") := by
  constructor
  · let doc := Document.parse "use x\nold()\n"
    let regions := useAndCall ["new()\nuse y"]
    let scans : List RegionScan := [⟨"use", [⟨"use", 0, 1⟩]⟩, ⟨"call", [⟨"call", 1, 2⟩]⟩]
    have hscan : scanPlan doc.lines regions = .ok scans := by decide +kernel
    have hgone : residual (revisedLines doc.lines regions scans) regions scans = none := by
      decide +kernel
    refine foundAgain_of_revise (.of_read (by decide +kernel)) rfl (revise_eq_ok hscan hgone)
      (by decide +kernel) ⟨"notes.tmp", _, by decide +kernel, rfl, rfl⟩
      List.mem_cons_self rfl rfl ⟨[⟨"use", 1, 2⟩], ?_⟩
    decide +kernel
  · let doc := Document.parse "x\nx\r\r\nkept\n"
    let regions : List Region := [⟨"plain", .all [.contains "x", .negation (.contains "\r")],
      .singleLine, none, .first, true, .delete⟩]
    let scans : List RegionScan := [⟨"plain", [⟨"plain", 0, 1⟩]⟩]
    have hscan : scanPlan doc.lines regions = .ok scans := by decide +kernel
    have hgone : residual (revisedLines doc.lines regions scans) regions scans = none := by
      decide +kernel
    refine foundAgain_of_revise (.of_read (by decide +kernel)) rfl (revise_eq_ok hscan hgone)
      (by decide +kernel) ⟨"notes.tmp", _, by decide +kernel, rfl, rfl⟩
      List.mem_cons_self rfl rfl ⟨[⟨"plain", 0, 1⟩], ?_⟩
    decide +kernel

end LineCut
