/-
What the scanner finds the editor accepts.

The two halves of the program check the same thing in two ways.  The scanner compares a new range
with those of earlier regions and trusts its own search for the rest; the editor trusts nobody,
sorts all ranges and compares neighbours.  If the two ever disagreed, a plan would be resolved and
then refused.  They do not: the ranges of a successful scan are compatible edits, so of the
faults that carrying out a plan can end in, none comes from the editor.
-/
import LineCut.Proofs.Editing
import LineCut.Proofs.Scanning
import LineCut.Revision

namespace LineCut

variable {lines : List String} {regions : List Region} {scans : List RegionScan}

theorem planSearch_of_scanPlan (h : scanPlan lines regions = .ok scans) :
    PlanSearch lines [] regions scans :=
  planSearch_of_scanAfter h

/-- The ranges of a successful scan hold lines and stay among those of the text. -/
theorem within_of_scanPlan (h : scanPlan lines regions = .ok scans) :
    ∀ range ∈ foundRanges scans, range.Within lines.length :=
  (planSearch_of_scanPlan h).within

/-- No two ranges of a successful scan share a line. -/
theorem apart_of_scanPlan (h : scanPlan lines regions = .ok scans) :
    (foundRanges scans).Pairwise LineRange.Apart := by
  have hall := (planSearch_of_scanPlan h).pairwise_apart (by simp) .nil
  simpa using hall

/-- The edits of a plan have the ranges that were found, in the order of the plan. -/
theorem ranges_editsOf (h : scans.length = regions.length) :
    (editsOf regions scans).map (·.range) = foundRanges scans := by
  unfold editsOf foundRanges
  induction regions generalizing scans with
  | nil =>
      have hnil : scans = [] := List.eq_nil_of_length_eq_zero h
      subst hnil
      rfl
  | cons region regions ih =>
      cases scans with
      | nil => simp at h
      | cons scan scans =>
          have hlength : scans.length = regions.length := by simpa using h
          have hrest := ih hlength
          simp only [List.zip_cons_cons, List.flatMap_cons, List.map_append, List.map_map]
          rw [hrest]
          congr 1
          exact List.map_id' scan.ranges

/-- What holds of the ranges of all edits holds of the ranges that were found. -/
theorem forall_editsOf_iff (h : scans.length = regions.length) {P : LineRange → Prop} :
    (∀ edit ∈ editsOf regions scans, P edit.range) ↔ ∀ range ∈ foundRanges scans, P range := by
  rw [← ranges_editsOf h]
  simp

/-- **What a successful scan asks for can be carried out.** -/
theorem compatible_editsOf (h : scanPlan lines regions = .ok scans) :
    Edit.Compatible lines.length (editsOf regions scans) := by
  have hranges := ranges_editsOf (planSearch_of_scanPlan h).length_eq
  constructor
  · intro edit hmem
    refine within_of_scanPlan h edit.range ?_
    rw [← hranges]
    exact List.mem_map_of_mem hmem
  · have hapart := apart_of_scanPlan h
    rw [← hranges] at hapart
    exact List.pairwise_map.mp hapart

/-! ### The ways a revision can end -/

/-- The lines that are left when a plan has been carried out on others. -/
def revisedLines (lines : List String) (regions : List Region) (scans : List RegionScan) :
    List String :=
  Edit.images (editsOf regions scans) 0 lines

/-- **Once the scan has succeeded only a region that is still there can stop a revision.** -/
theorem revise_of_scanPlan {doc : Document} (h : scanPlan doc.lines regions = .ok scans) :
    doc.revise regions =
      match residual (revisedLines doc.lines regions scans) regions scans with
      | some (name, line) => .error (.residualMatch name line)
      | none => .ok ⟨scans, doc.withLines (revisedLines doc.lines regions scans),
          Edit.stats (editsOf regions scans)⟩ := by
  have hedit := applyEdits_eq_ok_iff.mpr ⟨compatible_editsOf h, rfl⟩
  unfold Document.revise verifyRemoved
  simp only [h, hedit]
  cases hresidual : residual (Edit.images (editsOf regions scans) 0 doc.lines) regions scans with
  | none => simp only [revisedLines, hresidual]
  | some found => simp only [revisedLines, hresidual]

/-- **A revision succeeds exactly if the scan does and the last look finds nothing**, and then this
is what it comes to. -/
theorem revise_eq_ok_iff {doc : Document} {revision : Revision} :
    doc.revise regions = .ok revision ↔
      ∃ scans, scanPlan doc.lines regions = .ok scans ∧
        residual (revisedLines doc.lines regions scans) regions scans = none ∧
        revision = ⟨scans, doc.withLines (revisedLines doc.lines regions scans),
          Edit.stats (editsOf regions scans)⟩ := by
  cases hscan : scanPlan doc.lines regions with
  | error fault => simp [Document.revise, hscan]
  | ok scans =>
      rw [revise_of_scanPlan hscan]
      cases hresidual : residual (revisedLines doc.lines regions scans) regions scans with
      | none => simp [hresidual, eq_comm]
      | some found => simp [hresidual]

theorem revise_eq_ok {doc : Document} (hscan : scanPlan doc.lines regions = .ok scans)
    (hgone : residual (revisedLines doc.lines regions scans) regions scans = none) :
    doc.revise regions = .ok ⟨scans, doc.withLines (revisedLines doc.lines regions scans),
      Edit.stats (editsOf regions scans)⟩ :=
  revise_eq_ok_iff.mpr ⟨scans, hscan, hgone, rfl⟩

/-- What a successful revision consists of. -/
structure Revised (doc : Document) (regions : List Region) (revision : Revision) : Prop where
  /-- All regions were found or may be missing. -/
  scanned : scanPlan doc.lines regions = .ok revision.scans
  /-- No region that was found and deleted is still opened by a line. -/
  verified : residual revision.output.lines regions revision.scans = none
  /-- The output has the lines that are left, and ends them as the document does. -/
  output_eq : revision.output = doc.withLines (revisedLines doc.lines regions revision.scans)

theorem revised_of_revise {doc : Document} {revision : Revision}
    (h : doc.revise regions = .ok revision) : Revised doc regions revision := by
  obtain ⟨scans, hscan, hresidual, rfl⟩ := revise_eq_ok_iff.mp h
  exact ⟨hscan, hresidual, rfl⟩

/-- A fault of a revision is one of the scan, or a region is still there after its removal. -/
theorem revise_error_cases {doc : Document} {fault : Fault}
    (h : doc.revise regions = .error fault) :
    scanPlan doc.lines regions = .error fault ∨
      ∃ scans, scanPlan doc.lines regions = .ok scans ∧
        ∃ name line, fault = .residualMatch name line := by
  cases hscan : scanPlan doc.lines regions with
  | error found =>
      simp only [Document.revise, hscan] at h
      cases h
      exact Or.inl rfl
  | ok scans =>
      rw [revise_of_scanPlan hscan] at h
      split at h
      · rename_i name line hresidual
        cases h
        exact Or.inr ⟨scans, rfl, name, line, rfl⟩
      · cases h

/--
**What the scanner finds the editor accepts.**  The ranges of a successful scan hold lines, stay
among those of the text, and share none, whether they are of one region or of two; the edits made
of them are carried out.  So carrying out a plan fails only where scanning it fails, or because a
region is still there after its removal.
-/
theorem scanPlan_editable (lines : List String) (regions : List Region) :
    (∀ scans, scanPlan lines regions = .ok scans →
      (∀ range ∈ foundRanges scans, range.start < range.stop ∧ range.stop ≤ lines.length) ∧
      (foundRanges scans).Pairwise (fun r s => ∀ i, ¬ (r.Holds i ∧ s.Holds i)) ∧
      ∃ out stats, applyEdits lines (editsOf regions scans) = .ok (out, stats)) ∧
    ∀ ending trailing fault, Document.revise ⟨lines, ending, trailing⟩ regions = .error fault →
      scanPlan lines regions = .error fault ∨
        ∃ scans, scanPlan lines regions = .ok scans ∧
          ∃ name line, fault = .residualMatch name line := by
  constructor
  · intro scans hscan
    refine ⟨within_of_scanPlan hscan, apart_of_scanPlan hscan, ?_⟩
    exact ⟨_, _, applyEdits_eq_ok_iff.mpr ⟨compatible_editsOf hscan, rfl⟩⟩
  · intro ending trailing fault hfault
    exact revise_error_cases hfault

/-- The uses of a name, each with the comment above it, and a method that gets another body. -/
def usesAndMethod : List Region :=
  [{ name := "uses", start := .contains "use ", ending := .singleLine
     companion := some (.startsWith "//"), multiplicity := .all, required := false
     action := .delete },
   { name := "method", start := .startsWith "fn old", ending := .balanced "(" ")"
     companion := none, multiplicity := .first, required := true
     action := .replace ["fn new()", "end"] }]

/-- The companion of the first use, two uses side by side and the method touch, and still all of
it is carried out. -/
theorem scanPlan_editable_uses_and_method :
    let lines := ["// wire", "use x", "use y", "  fn old (", ")", "rest"]
    let scans := [⟨"uses", [⟨"uses", 0, 2⟩, ⟨"uses", 2, 3⟩]⟩, ⟨"method", [⟨"method", 3, 5⟩]⟩]
    scanPlan lines usesAndMethod = .ok scans ∧
      ∃ out stats, applyEdits lines (editsOf usesAndMethod scans) = .ok (out, stats) := by
  intro lines scans
  have hscan : scanPlan lines usesAndMethod = .ok scans := by decide +kernel
  exact ⟨hscan, ((scanPlan_editable lines usesAndMethod).1 scans hscan).2.2⟩

end LineCut
