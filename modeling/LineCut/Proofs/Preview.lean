/-
What a scan promises and a run keeps.

A scan and a run are put together from the same pieces in two places.  Both load the document and
look for the regions; there the scan stops and reports what it has found, and the run goes on.  If
either step fails, it fails in both, with the same fault.  If both succeed, little is left that can
go wrong with the run.  The editor accepts all that the scanner finds, so carrying out the plan
fails only if a region is still there afterwards; and the disk is not touched again unless there is
something to write.  Whatever a run that succeeds says about the regions the scan has said before.

Nothing here needs the disk to be a good one: operations may break off as they like.
-/
import LineCut.Proofs.Containment

namespace LineCut

variable {refuses : Tree → Tree.Request → Option DiskError} {mishaps : Tree.Mishaps} {tree : Tree}
  {path : String} {plan : Plan} {write : Bool}

/-! ### Scanning a file -/

theorem scanFile_of_load {disk : Disk (StateM Tree)} {doc : Document} {regions : List Region}
    (hload : load disk path plan tree = (.ok (doc, regions), tree)) :
    scanFile disk path plan tree =
      ((scanPlan doc.lines regions).map fun scans =>
        ⟨path, doc.lines.length, regionReports regions scans⟩, tree) := by
  simp only [scanFile, run_bind, hload]
  cases hscan : scanPlan doc.lines regions with
  | error fault => rfl
  | ok scans => rfl

theorem scanFile_of_load_error {disk : Disk (StateM Tree)} {fault : Fault}
    (hload : load disk path plan tree = (.error fault, tree)) :
    scanFile disk path plan tree = (.error fault, tree) := by
  simp only [scanFile, run_bind, hload]
  rfl

/-! ### Replacing a file -/

/-- The fault of a replacement is that of an operation on a disk, and says that it was to write. -/
def IsWriteFault (path : String) (fault : Fault) : Prop :=
  ∃ error step, fault = .io error (some ("write " ++ path ++ step)) ∧
    (step = "" ∨ step = " (write temp)" ∨ step = " (rename)")

theorem isWriteFault_of_replaceText {disk : Disk (StateM Tree)} {text : String} {fault : Fault}
    {after : Tree}
    (h : disk.replaceText path text ("write " ++ path) tree = (.error fault, after)) :
    IsWriteFault path fault := by
  cases htemporary : Path.temporary? path with
  | none =>
      simp only [Disk.replaceText, htemporary] at h
      cases h
      exact ⟨"Invalid path: " ++ path, "", by simp [Disk.fault], by simp⟩
  | some temporary =>
      simp only [Disk.replaceText, htemporary, run_bind] at h
      cases hwrite : disk.write temporary text.toUTF8 tree with
      | mk outcome written =>
          rw [hwrite] at h
          cases outcome with
          | error error =>
              cases h
              exact ⟨error.message, " (write temp)", rfl, by simp⟩
          | ok done =>
              simp only [run_bind] at h
              cases hrename : disk.rename temporary path written with
              | mk outcome renamed =>
                  rw [hrename] at h
                  cases outcome with
                  | error error =>
                      cases h
                      exact ⟨error.message, " (rename)", rfl, by simp⟩
                  | ok done => cases h

/-! ### Running after scanning -/

/-- A run reports of the file and of its regions what the scan has reported. -/
structure Foretold (scanned : ScanReport) (report : ApplyReport) : Prop where
  file_eq : report.file = scanned.file
  lines_eq : report.oldLines = scanned.totalLines
  found_eq : report.regionsFound = scanned.regionsFound
  /-- Each region with its ranges, and with how many lines are removed and put in. -/
  regions_eq : report.regions = scanned.regions

theorem foretold_applyReport {doc : Document} {regions : List Region} {revision : Revision}
    {applied : Bool} :
    Foretold ⟨path, doc.lines.length, regionReports regions revision.scans⟩
      (applyReport path doc regions revision write applied) :=
  ⟨rfl, rfl, rfl, rfl⟩

/-- **After a scan that succeeds a run can fail in two ways only.** -/
theorem applyFile_of_scanPlan {disk : Disk (StateM Tree)} {doc : Document} {regions : List Region}
    {scans : List RegionScan} (hload : load disk path plan tree = (.ok (doc, regions), tree))
    (hscan : scanPlan doc.lines regions = .ok scans) (write : Bool) :
    (∃ report later, applyFile disk path plan write tree = (.ok report, later) ∧
      Foretold ⟨path, doc.lines.length, regionReports regions scans⟩ report) ∨
    (∃ region line,
      applyFile disk path plan write tree = (.error (.residualMatch region line), tree)) ∨
    write = true ∧ ∃ fault later, applyFile disk path plan write tree = (.error fault, later) ∧
      IsWriteFault path fault := by
  rw [applyFile_of_load hload]
  cases hrevise : doc.revise regions with
  | error fault =>
      rcases revise_error_cases hrevise with hfault | ⟨-, -, region, line, rfl⟩
      · rw [hscan] at hfault
        cases hfault
      · exact Or.inr (Or.inl ⟨region, line, rfl⟩)
  | ok revision =>
      obtain rfl : revision.scans = scans := by
        have hscans := (revised_of_revise hrevise).scanned
        rw [hscan] at hscans
        exact (Except.ok.inj hscans).symm
      by_cases hcond : (write && revision.output != doc) = true
      · cases hrun : disk.replaceText path revision.output.render ("write " ++ path) tree with
        | mk outcome later =>
            simp only [if_pos hcond, hrun]
            cases outcome with
            | ok done => exact Or.inl ⟨_, later, rfl, foretold_applyReport⟩
            | error fault =>
                obtain ⟨hwrite, -⟩ : write = true ∧ revision.output ≠ doc := by simpa using hcond
                exact Or.inr (Or.inr
                  ⟨hwrite, fault, later, rfl, isWriteFault_of_replaceText hrun⟩)
      · simp only [if_neg hcond]
        exact Or.inl ⟨_, tree, rfl, foretold_applyReport⟩

/-- **Where a scan fails a run fails with the same fault**, and has changed nothing. -/
theorem applyFile_of_scanFile_error {disk : Disk (StateM Tree)}
    {loaded : Except Fault (Document × List Region)}
    (hload : load disk path plan tree = (loaded, tree)) {fault : Fault} {after : Tree}
    (hscan : scanFile disk path plan tree = (.error fault, after)) (write : Bool) :
    applyFile disk path plan write tree = (.error fault, tree) := by
  cases loaded with
  | error found =>
      rw [scanFile_of_load_error hload] at hscan
      cases hscan
      exact applyFile_of_load_error hload
  | ok loaded =>
      obtain ⟨doc, regions⟩ := loaded
      rw [scanFile_of_load hload] at hscan
      cases hfound : scanPlan doc.lines regions with
      | ok scans =>
          rw [hfound] at hscan
          cases hscan
      | error found =>
          rw [hfound] at hscan
          cases hscan
          have hrevise : doc.revise regions = .error fault := by simp [Document.revise, hfound]
          rw [applyFile_of_load hload, hrevise]

/-- A scan that succeeds has loaded the file and reports what it has found in it. -/
theorem exists_scanPlan_of_scanFile {disk : Disk (StateM Tree)}
    {loaded : Except Fault (Document × List Region)}
    (hload : load disk path plan tree = (loaded, tree)) {scanned : ScanReport} {after : Tree}
    (hscan : scanFile disk path plan tree = (.ok scanned, after)) :
    ∃ doc regions scans, loaded = .ok (doc, regions) ∧ scanPlan doc.lines regions = .ok scans ∧
      scanned = ⟨path, doc.lines.length, regionReports regions scans⟩ := by
  cases loaded with
  | error fault =>
      rw [scanFile_of_load_error hload] at hscan
      cases hscan
  | ok loaded =>
      obtain ⟨doc, regions⟩ := loaded
      rw [scanFile_of_load hload] at hscan
      cases hfound : scanPlan doc.lines regions with
      | error fault =>
          rw [hfound] at hscan
          cases hscan
      | ok scans =>
          rw [hfound] at hscan
          cases hscan
          exact ⟨doc, regions, scans, rfl, hfound, rfl⟩

/-- **Two runs that succeed differ in whether they were to write and whether they did.** -/
theorem applyReport_eq_of_dryRun {disk : Disk (StateM Tree)}
    {loaded : Except Fault (Document × List Region)}
    (hload : load disk path plan tree = (loaded, tree)) {dry wet : ApplyReport}
    {after later : Tree} (hdry : applyFile disk path plan false tree = (.ok dry, after))
    (hwet : applyFile disk path plan true tree = (.ok wet, later)) :
    wet = { dry with dryRun := false, applied := wet.applied } := by
  cases loaded with
  | error fault =>
      rw [applyFile_of_load_error hload] at hdry
      cases hdry
  | ok loaded =>
      obtain ⟨doc, regions⟩ := loaded
      cases hrevise : doc.revise regions with
      | error fault =>
          rw [applyFile_of_load hload, hrevise] at hdry
          cases hdry
      | ok revision =>
          rw [applyReport_of_applyFile hload hrevise hdry,
            applyReport_of_applyFile hload hrevise hwet]
          rfl

/--
**A scan tells the truth about a run.**  Where the scan fails the run fails with the same fault,
asked to write or not.  Where the scan succeeds a run that succeeds reports the same of the file and
its regions; it fails only if a deleted region is still there, or because the file could not be
written, and that only if it was asked to.  A run that is asked to write and one that is not give
the same report if both succeed, but for whether they were asked to write and whether they did.
-/
theorem applyFile_foretold (refuses : Tree → Tree.Request → Option DiskError)
    (mishaps : Tree.Mishaps) (tree : Tree) (path : String) (plan : Plan) :
    let disk := Tree.frailDisk refuses mishaps
    (∀ fault after, scanFile disk path plan tree = (.error fault, after) →
      ∀ write, applyFile disk path plan write tree = (.error fault, tree)) ∧
    (∀ scanned after, scanFile disk path plan tree = (.ok scanned, after) → ∀ write,
      (∃ report later, applyFile disk path plan write tree = (.ok report, later) ∧
        Foretold scanned report) ∨
      (∃ region line,
        applyFile disk path plan write tree = (.error (.residualMatch region line), tree)) ∨
      write = true ∧ ∃ fault later, applyFile disk path plan write tree = (.error fault, later) ∧
        IsWriteFault path fault) ∧
    ∀ dry wet after later, applyFile disk path plan false tree = (.ok dry, after) →
      applyFile disk path plan true tree = (.ok wet, later) →
        wet = { dry with dryRun := false, applied := wet.applied } := by
  intro disk
  obtain ⟨loaded, hloaded, -⟩ := load_run refuses tree path plan
  -- Loading only reads, and nothing but writing goes wrong on this disk and not on the other.
  have hload : load disk path plan tree = (loaded, tree) := hloaded
  refine ⟨?_, ?_, ?_⟩
  · intro fault after hscan write
    exact applyFile_of_scanFile_error hload hscan write
  · intro scanned after hscan write
    obtain ⟨doc, regions, scans, rfl, hfound, rfl⟩ := exists_scanPlan_of_scanFile hload hscan
    exact applyFile_of_scanPlan hload hfound write
  · intro dry wet after later hdry hwet
    exact applyReport_eq_of_dryRun hload hdry hwet

/-- Delete the first mention of something that is not there. -/
def dropGone : Plan where
  regions := [{ name := "gone", start := .contains "gone()", ending := .singleLine }]

/-- A scan for what is not there fails, and so does the run.  A scan for the use succeeds, and the
run that deletes it reports what the scan and the run that was not to write have reported. -/
theorem applyFile_foretold_drop_use :
    let disk := Tree.frailDisk (fun _ _ => none) .none
    let tree := notesAndNeighbours
    let path := "/home/me/notes"
    let fault : Fault := .startNotFound "gone" 2
    let wet := dropUseReport path
    let scanned : ScanReport := ⟨path, 2, wet.regions⟩
    let dry : ApplyReport := { wet with dryRun := true, applied := false }
    let later := (notesAtHome "kept\n").addFile ["home", "me", "other"] "use y\n".toUTF8
    scanFile disk path dropGone tree = (.error fault, tree) ∧
      applyFile disk path dropGone true tree = (.error fault, tree) ∧
      scanFile disk path dropUse tree = (.ok scanned, tree) ∧
      applyFile disk path dropUse true tree = (.ok wet, later) ∧ Foretold scanned wet ∧
      applyFile disk path dropUse false tree = (.ok dry, tree) ∧
      wet = { dry with dryRun := false, applied := wet.applied } := by
  intro disk tree path fault wet scanned dry later
  have hgone : scanFile disk path dropGone tree = (.error fault, tree) := by
    change @Eq (Except Fault ScanReport × Tree) _ _
    decide +kernel
  have hscanned : scanFile disk path dropUse tree = (.ok scanned, tree) := by
    change @Eq (Except Fault ScanReport × Tree) _ _
    decide +kernel
  have hdry : applyFile disk path dropUse false tree = (.ok dry, tree) := by
    change @Eq (Except Fault ApplyReport × Tree) _ _
    decide +kernel
  have hwet : applyFile disk path dropUse true tree = (.ok wet, later) := by
    change @Eq (Except Fault ApplyReport × Tree) _ _
    decide +kernel
  obtain ⟨hfails, -, -⟩ := applyFile_foretold (fun _ _ => none) .none tree path dropGone
  obtain ⟨-, hsucceeds, hsame⟩ := applyFile_foretold (fun _ _ => none) .none tree path dropUse
  have hforetold : Foretold scanned wet := by
    rcases hsucceeds scanned _ hscanned true with
      ⟨report, after, hrun, h⟩ | ⟨region, line, hrun⟩ | ⟨-, fault, after, hrun, -⟩
    · rw [hwet] at hrun
      cases hrun
      exact h
    · rw [hwet] at hrun
      cases hrun
    · rw [hwet] at hrun
      cases hrun
  exact ⟨hgone, hfails fault _ hgone true, hscanned, hwet, hforetold, hdry,
    hsame dry wet _ _ hdry hwet⟩

end LineCut
