/-
A run on a file happens whole or not at all.

`applyFile` can fail in many places: the plan may be no good, the file may be missing or no text,
the scan or the last look may stop it, and the disk may refuse to read or to write.  All but one of
them lie before anything has been written.  The one that does not is the renaming, and by then the
file beside the one that is replaced has been written; what saves the run is that this renaming
cannot fail, since the path led to a file when it was read.

`Run` says what a run can come to, and every run is one: a fault and the tree as it was, a report
and the tree as it was, or a report and the tree with the file replaced.  It says with each what it
takes, so that it also tells when a run does not fail.

A disk fails for reasons that are not in its files, too: a read may be forbidden, a write may find
no room.  So the tree may refuse any of them here, as it likes, as long as it then changes nothing.
-/
import LineCut.Apply
import LineCut.Proofs.Replacing
import LineCut.Proofs.Separation

namespace LineCut

namespace Tree

/-! ### Trees that refuse -/

/-- What a disk may refuse. -/
inductive Request where
  | read (path : String)
  | write (path : String) (content : ByteArray)

/-- The result of an operation, unless it is refused. -/
def granted {α : Type} (refuses : Tree → Request → Option DiskError) (tree : Tree)
    (request : Request) (result : Except DiskError α) : Except DiskError α :=
  match refuses tree request with
  | some error => .error error
  | none => result

/-- A tree in place of a disk that refuses some reads and writes. -/
def refusingDisk (refuses : Tree → Request → Option DiskError) : Disk (StateM Tree) where
  isFile := disk.isFile
  read path := fun tree => (granted refuses tree (.read path) (tree.read path), tree)
  write path content :=
    step fun tree => granted refuses tree (.write path content) (tree.write path content)
  rename := disk.rename
  remove := disk.remove

/-- A tree that refuses nothing is the tree itself. -/
theorem refusingDisk_none : refusingDisk (fun _ _ => none) = disk := rfl

variable {refuses : Tree → Request → Option DiskError} {tree : Tree}

theorem granted_ok_iff {α : Type} {request : Request} {result : Except DiskError α} {value : α} :
    granted refuses tree request result = .ok value ↔
      refuses tree request = none ∧ result = .ok value := by
  unfold granted
  split
  · rename_i error hrefused
    simp [hrefused]
  · rename_i hgranted
    simp [hgranted]

end Tree

variable {refuses : Tree → Tree.Request → Option DiskError} {tree : Tree} {path : String}
  {plan : Plan} {write : Bool}

theorem run_bind {σ α β : Type} (first : StateM σ α) (next : α → StateM σ β) (s : σ) :
    (first >>= next) s = next (first s).1 (first s).2 := rfl

/-! ### Reading -/

/-- The path leads to a file that holds the text. -/
def HoldsText (tree : Tree) (path text : String) : Prop :=
  ∃ bytes, tree.read path = .ok bytes ∧ String.fromUTF8? bytes = some text

theorem HoldsText.unique {text other : String} (h : HoldsText tree path text)
    (hother : HoldsText tree path other) : text = other := by
  obtain ⟨bytes, hread, htext⟩ := h
  obtain ⟨more, hmore, hothertext⟩ := hother
  rw [hread] at hmore
  cases hmore
  rw [htext] at hothertext
  cases hothertext
  rfl

/-- A text that was written can be read. -/
theorem HoldsText.of_read {text : String} (h : tree.read path = .ok text.toUTF8) :
    HoldsText tree path text := by
  refine ⟨_, h, ?_⟩
  exact dif_pos text.isValidUTF8

theorem text_ok_iff {bytes : ByteArray} {operation text : String} :
    Disk.text bytes operation = .ok text ↔ String.fromUTF8? bytes = some text := by
  unfold Disk.text
  split
  · rename_i found hfound
    simp [hfound]
  · rename_i hnone
    simp [hnone]

/-- Reading changes nothing, and gives the text that is there unless it is refused. -/
theorem readText_run (refuses : Tree → Tree.Request → Option DiskError) (tree : Tree)
    (path operation : String) :
    ∃ result, (Tree.refusingDisk refuses).readText path operation tree = (result, tree) ∧
      ∀ text, result = .ok text ↔
        refuses tree (.read path) = none ∧ HoldsText tree path text := by
  cases hread : Tree.granted refuses tree (.read path) (tree.read path) with
  | ok bytes =>
      obtain ⟨hgranted, hbytes⟩ := Tree.granted_ok_iff.mp hread
      refine ⟨Disk.text bytes operation, ?_, ?_⟩
      · simp only [Disk.readText, run_bind, Tree.refusingDisk, hread]
        rfl
      · intro text
        rw [text_ok_iff]
        simp [HoldsText, hgranted, hbytes]
  | error error =>
      have hnot : ∀ text, ¬ (refuses tree (.read path) = none ∧ HoldsText tree path text) := by
        rintro text ⟨hgranted, bytes, hbytes, -⟩
        rw [Tree.granted_ok_iff.mpr ⟨hgranted, hbytes⟩] at hread
        cases hread
      have hrun : ∃ fault,
          (Tree.refusingDisk refuses).readText path operation tree = (.error fault, tree) := by
        simp only [Disk.readText, run_bind, Tree.refusingDisk, hread]
        cases error
        all_goals exact ⟨_, rfl⟩
      obtain ⟨fault, hfault⟩ := hrun
      exact ⟨.error fault, hfault, by simpa using hnot⟩

/-- Loading changes nothing, and succeeds with a good plan and a text that can be read. -/
theorem load_run (refuses : Tree → Tree.Request → Option DiskError) (tree : Tree)
    (path : String) (plan : Plan) :
    ∃ result, load (Tree.refusingDisk refuses) path plan tree = (result, tree) ∧
      ∀ doc regions, result = .ok (doc, regions) ↔
        plan.compile = .ok regions ∧ refuses tree (.read path) = none ∧
          ∃ text, HoldsText tree path text ∧ doc = .parse text := by
  cases hcompile : plan.compile with
  | error fault =>
      refine ⟨.error fault, ?_, by simp⟩
      simp only [load, hcompile]
      rfl
  | ok regions =>
      obtain ⟨result, hrun, hok⟩ := readText_run refuses tree path ("read " ++ path)
      cases result with
      | error fault =>
          refine ⟨.error fault, ?_, ?_⟩
          · simp only [load, hcompile, run_bind, hrun]
            rfl
          · rintro doc regions
            simp only [reduceCtorEq, false_iff]
            rintro ⟨-, hgranted, text, htext, -⟩
            cases (hok text).mpr ⟨hgranted, htext⟩
      | ok text =>
          obtain ⟨hgranted, htext⟩ := (hok text).mp rfl
          refine ⟨.ok (.parse text, regions), ?_, ?_⟩
          · simp only [load, hcompile, run_bind, hrun]
            rfl
          · intro doc others
            constructor
            · intro heq
              cases heq
              exact ⟨rfl, hgranted, text, htext, rfl⟩
            · rintro ⟨hregions, -, other, hother, rfl⟩
              cases hregions
              rw [htext.unique hother]

/-! ### Writing -/

/-- The new bytes can be written to the file beside the one that is to be replaced. -/
def Accepts (refuses : Tree → Tree.Request → Option DiskError) (tree : Tree) (path : String)
    (fresh : ByteArray) : Prop :=
  ∃ temporary written, Path.temporary? path = some temporary ∧
    refuses tree (.write temporary fresh) = none ∧ tree.write temporary fresh = .ok written

/-- **A file that can be read is replaced, or nothing changes**, and it is the writing of the file
beside it that decides. -/
theorem replaceText_run (refuses : Tree → Tree.Request → Option DiskError) {content : ByteArray}
    (hread : tree.read path = .ok content)
    (text operation : String) :
    (Accepts refuses tree path text.toUTF8 ∧ ∃ after,
      (Tree.refusingDisk refuses).replaceText path text operation tree = (.ok (), after) ∧
        Tree.Replaces tree after path text.toUTF8) ∨
    (¬ Accepts refuses tree path text.toUTF8 ∧ ∃ fault,
      (Tree.refusingDisk refuses).replaceText path text operation tree = (.error fault, tree)) := by
  cases htemporary : Path.temporary? path with
  | none =>
      right
      refine ⟨?_, Disk.fault ("Invalid path: " ++ path) operation, ?_⟩
      · rintro ⟨temporary, written, hsome, -⟩
        rw [htemporary] at hsome
        cases hsome
      · simp only [Disk.replaceText, htemporary]
        rfl
  | some temporary =>
      cases hwrite : Tree.granted refuses tree (.write temporary text.toUTF8)
          (tree.write temporary text.toUTF8) with
      | error error =>
          right
          refine ⟨?_, Disk.fault error.message (operation ++ " (write temp)"), ?_⟩
          · rintro ⟨other, written, hsome, hgranted, hwritten⟩
            rw [htemporary] at hsome
            cases hsome
            rw [Tree.granted_ok_iff.mpr ⟨hgranted, hwritten⟩] at hwrite
            cases hwrite
          · simp only [Disk.replaceText, htemporary, run_bind, Tree.refusingDisk, Tree.step, hwrite]
            rfl
      | ok written =>
          left
          obtain ⟨hgranted, hwritten⟩ := Tree.granted_ok_iff.mp hwrite
          obtain ⟨directory, name, hleads⟩ := Tree.exists_leadsTo_of_read hread
          obtain ⟨hlocated, hnot, rfl⟩ := hleads.write_temporary htemporary hwritten
          refine ⟨⟨temporary, _, htemporary, hgranted, hwritten⟩, _, ?_, hleads.replaces hnot⟩
          simp only [Disk.replaceText, htemporary, run_bind, Tree.refusingDisk, Tree.step, hwrite,
            Tree.disk, hleads.rename_temporary hlocated hnot]
          rfl

/-! ### Whole runs -/

section Loaded

/-! What a run does is read off its text, on any disk: loading may leave it other than it was. -/

variable {σ : Type} {disk : Disk (StateM σ)} {s loaded : σ} {doc : Document} {regions : List Region}

theorem applyFile_of_load_error {fault : Fault}
    (hload : load disk path plan s = (.error fault, loaded)) :
    applyFile disk path plan write s = (.error fault, loaded) := by
  simp only [applyFile, run_bind, hload]
  rfl

/-- **What a run does once it has loaded.** -/
theorem applyFile_of_load (hload : load disk path plan s = (.ok (doc, regions), loaded)) :
    applyFile disk path plan write s =
      match doc.revise regions with
      | .error fault => (.error fault, loaded)
      | .ok revision =>
        if write && revision.output != doc then
          match disk.replaceText path revision.output.render ("write " ++ path) loaded with
          | (.error fault, after) => (.error fault, after)
          | (.ok (), after) => (.ok (applyReport path doc regions revision write true), after)
        else (.ok (applyReport path doc regions revision write false), loaded) := by
  simp only [applyFile, run_bind, hload]
  cases hrevise : doc.revise regions with
  | error fault => rfl
  | ok revision =>
      simp only
      split
      · rw [run_bind]
        cases hreplaced : disk.replaceText path revision.output.render ("write " ++ path)
            loaded with
        | mk outcome after =>
            cases outcome with
            | error fault => rfl
            | ok done => rfl
      · rfl

/-- A run that succeeds reports what the plan made of the document, and whether it has written. -/
theorem applyReport_of_applyFile {revision : Revision} {report : ApplyReport} {after : σ}
    (hload : load disk path plan s = (.ok (doc, regions), loaded))
    (hrevise : doc.revise regions = .ok revision)
    (hrun : applyFile disk path plan write s = (.ok report, after)) :
    report = applyReport path doc regions revision write report.applied := by
  rw [applyFile_of_load hload, hrevise] at hrun
  simp only at hrun
  split at hrun
  · split at hrun
    · cases hrun
    · cases hrun
      rfl
  · cases hrun
    rfl

/-- **A run that succeeds has loaded a document and revised it**, and reports on that revision. -/
theorem exists_revision_of_applyFile {report : ApplyReport} {after : σ}
    (hrun : applyFile disk path plan write s = (.ok report, after)) :
    ∃ doc regions loaded revision, load disk path plan s = (.ok (doc, regions), loaded) ∧
      doc.revise regions = .ok revision ∧
      report = applyReport path doc regions revision write report.applied := by
  cases hload : load disk path plan s with
  | mk result loaded =>
      cases result with
      | error fault =>
          rw [applyFile_of_load_error hload] at hrun
          cases hrun
      | ok found =>
          obtain ⟨doc, regions⟩ := found
          cases hrevise : doc.revise regions with
          | error fault =>
              rw [applyFile_of_load hload, hrevise] at hrun
              cases hrun
          | ok revision =>
              exact ⟨doc, regions, loaded, revision, rfl, hrevise,
                applyReport_of_applyFile hload hrevise hrun⟩

end Loaded

/-- The plan can be carried out on what the file holds, and this is what comes of it. -/
structure Prepared (tree : Tree) (path : String) (plan : Plan) (text : String)
    (revision : Revision) : Prop where
  holds : HoldsText tree path text
  revised : ∃ regions, plan.compile = .ok regions ∧
    (Document.parse text).revise regions = .ok revision

theorem Prepared.unique {text other : String} {revision another : Revision}
    (h : Prepared tree path plan text revision) (hother : Prepared tree path plan other another) :
    text = other ∧ revision = another := by
  cases h.holds.unique hother.holds
  obtain ⟨regions, hcompile, hrevise⟩ := h.revised
  obtain ⟨others, hcompile', hrevise'⟩ := hother.revised
  rw [hcompile] at hcompile'
  cases hcompile'
  rw [hrevise] at hrevise'
  cases hrevise'
  exact ⟨rfl, rfl⟩

/-- What a run can come to, and what each of it takes. -/
inductive Run (refuses : Tree → Tree.Request → Option DiskError) (tree : Tree) (path : String)
    (plan : Plan) (write : Bool) : Except Fault ApplyReport × Tree → Prop
  /-- The plan cannot be carried out, or its result cannot be written. -/
  | fails {fault : Fault}
      (hcause : ∀ text revision, Prepared tree path plan text revision →
        refuses tree (.read path) = none →
          write = true ∧ revision.output ≠ .parse text ∧
            ¬ Accepts refuses tree path revision.output.render.toUTF8) :
      Run refuses tree path plan write (.error fault, tree)
  /-- There is nothing to be written, or it was not asked for. -/
  | keeps {text : String} {revision : Revision} {report : ApplyReport}
      (hprepared : Prepared tree path plan text revision)
      (hkeeps : write = false ∨ revision.output = .parse text)
      (happlied : report.applied = false) :
      Run refuses tree path plan write (.ok report, tree)
  /-- The result has been written. -/
  | replaces {text : String} {revision : Revision} {report : ApplyReport} {after : Tree}
      (hprepared : Prepared tree path plan text revision) (hwrite : write = true)
      (hchanged : revision.output ≠ .parse text) (happlied : report.applied = true)
      (hreplaces : Tree.Replaces tree after path revision.output.render.toUTF8) :
      Run refuses tree path plan write (.ok report, after)

/-- **Every run is one of these.** -/
theorem run_applyFile (refuses : Tree → Tree.Request → Option DiskError) (tree : Tree)
    (path : String) (plan : Plan) (write : Bool) :
    Run refuses tree path plan write
      (applyFile (Tree.refusingDisk refuses) path plan write tree) := by
  obtain ⟨result, hload, hok⟩ := load_run refuses tree path plan
  cases result with
  | error fault =>
      rw [applyFile_of_load_error hload]
      refine .fails ?_
      rintro text revision ⟨htext, regions, hcompile, -⟩ hgranted
      cases (hok _ _).mpr ⟨hcompile, hgranted, text, htext, rfl⟩
  | ok loaded =>
      obtain ⟨doc, regions⟩ := loaded
      obtain ⟨hcompile, hgranted, text, htext, rfl⟩ := (hok doc regions).mp rfl
      rw [applyFile_of_load hload]
      cases hrevise : (Document.parse text).revise regions with
      | error fault =>
          refine .fails ?_
          rintro other revision ⟨hother, others, hcompile', hrevise'⟩ -
          cases htext.unique hother
          rw [hcompile] at hcompile'
          cases hcompile'
          rw [hrevise] at hrevise'
          cases hrevise'
      | ok revision =>
          have hprepared : Prepared tree path plan text revision :=
            ⟨htext, regions, hcompile, hrevise⟩
          simp only
          by_cases hcond : (write && revision.output != .parse text) = true
          · obtain ⟨hwrite, hchanged⟩ : write = true ∧ revision.output ≠ .parse text := by
              simpa using hcond
            obtain ⟨bytes, hbytes, -⟩ := htext
            rw [if_pos hcond]
            rcases replaceText_run refuses hbytes revision.output.render
                ("write " ++ path) with ⟨-, after, hrun, hreplaces⟩ | ⟨hrefused, fault, hrun⟩
            · rw [hrun]
              exact .replaces hprepared hwrite hchanged rfl hreplaces
            · rw [hrun]
              refine .fails ?_
              intro other another hother _
              obtain ⟨rfl, rfl⟩ := hprepared.unique hother
              exact ⟨hwrite, hchanged, hrefused⟩
          · rw [if_neg hcond]
            refine .keeps hprepared ?_ rfl
            simpa [Classical.or_iff_not_imp_left] using hcond

/-- **What a run reports** is what the plan made of the text that the file held. -/
theorem report_of_applyFile {report : ApplyReport} {after : Tree}
    (h : applyFile (Tree.refusingDisk refuses) path plan write tree = (.ok report, after)) :
    ∃ text regions revision, HoldsText tree path text ∧ plan.compile = .ok regions ∧
      (Document.parse text).revise regions = .ok revision ∧
      report = applyReport path (.parse text) regions revision write report.applied := by
  obtain ⟨doc, regions, loaded, revision, hload, hrevise, hreport⟩ := exists_revision_of_applyFile h
  obtain ⟨result, hloaded, hok⟩ := load_run refuses tree path plan
  rw [hloaded] at hload
  cases hload
  obtain ⟨hcompile, -, text, htext, rfl⟩ := (hok doc regions).mp rfl
  exact ⟨text, regions, revision, htext, hcompile, hrevise, hreport⟩

/--
**A run happens whole or not at all.**  A run that fails leaves the tree as it was.  One that does
not fail has carried out the plan on the text that the file held; if it was not asked to write, or
if the document is the same as before, the tree is as it was and the report says so, and otherwise
the file holds the document that came of it, and nothing is left beside it.  It does not fail if
the plan can be carried out and nothing stands in the way of reading the file and, where it has to
be written, of writing beside it.
-/
theorem applyFile_atomic (refuses : Tree → Tree.Request → Option DiskError) (tree : Tree)
    (path : String) (plan : Plan) (write : Bool) :
    (∀ fault after,
      applyFile (Tree.refusingDisk refuses) path plan write tree = (.error fault, after) →
        after = tree) ∧
    (∀ report after,
      applyFile (Tree.refusingDisk refuses) path plan write tree = (.ok report, after) →
        ∃ text revision, Prepared tree path plan text revision ∧
          (write = false ∨ revision.output = .parse text →
            after = tree ∧ report.applied = false) ∧
          (write = true ∧ revision.output ≠ .parse text →
            report.applied = true ∧
              Tree.Replaces tree after path revision.output.render.toUTF8)) ∧
    ∀ text revision, Prepared tree path plan text revision → refuses tree (.read path) = none →
      (write = true ∧ revision.output ≠ .parse text →
        Accepts refuses tree path revision.output.render.toUTF8) →
      ∃ report after,
        applyFile (Tree.refusingDisk refuses) path plan write tree = (.ok report, after) := by
  have hrun := run_applyFile refuses tree path plan write
  refine ⟨?_, ?_, ?_⟩
  · intro fault after heq
    rw [heq] at hrun
    cases hrun with
    | fails => rfl
  · intro report after heq
    rw [heq] at hrun
    cases hrun with
    | keeps hprepared hkeeps happlied =>
        refine ⟨_, _, hprepared, fun _ => ⟨rfl, happlied⟩, ?_⟩
        rintro ⟨hwrite, hchanged⟩
        rcases hkeeps with hdry | hsame
        · rw [hdry] at hwrite
          cases hwrite
        · exact absurd hsame hchanged
    | replaces hprepared hwrite hchanged happlied hreplaces =>
        refine ⟨_, _, hprepared, ?_, fun _ => ⟨happlied, hreplaces⟩⟩
        rintro (hdry | hsame)
        · rw [hdry] at hwrite
          cases hwrite
        · exact absurd hsame hchanged
  · intro text revision hprepared hgranted haccepts
    generalize applyFile (Tree.refusingDisk refuses) path plan write tree = outcome at hrun
    cases hrun with
    | fails hcause =>
        obtain ⟨hwrite, hchanged, hrefused⟩ := hcause text revision hprepared hgranted
        exact absurd (haccepts ⟨hwrite, hchanged⟩) hrefused
    | keeps => exact ⟨_, _, rfl⟩
    | replaces => exact ⟨_, _, rfl⟩

/-- Delete the first use. -/
def dropUse : Plan where
  regions := [{ name := "use", start := .startsWith "use ", ending := .singleLine }]

/-- Notes of that content in the home directory, seen from another directory. -/
def notesAtHome (content : String) : Tree :=
  ((Tree.empty.addFile ["home", "me", "notes"] content.toUTF8).addDirectory ["work"]).within
    ["work"]

/-- The report on a file of two lines, of which the first is a use and is deleted. -/
def dropUseReport (path : String) : ApplyReport :=
  ⟨path, .lf, 2, 1, 1, 0, [⟨"use", true, [⟨1, 1, 0, 1, 1⟩], 1, 0⟩], false, true⟩

/-- The use goes, and so does what an earlier run has left beside the file. -/
theorem applyFile_atomic_drop_use :
    let tree := (notesAtHome "use x\nkept\n").addFile ["home", "me", "notes.tmp"] .empty
    let path := "/home/me/notes"
    let after := notesAtHome "kept\n"
    applyFile Tree.disk path dropUse true tree = (.ok (dropUseReport path), after) ∧
      Tree.Replaces tree after path "kept\n".toUTF8 := by
  intro tree path after
  have hcomes : applyFile Tree.disk path dropUse true tree = (.ok (dropUseReport path), after) := by
    change @Eq (Except Fault ApplyReport × Tree) _ _
    decide +kernel
  rw [← Tree.refusingDisk_none] at hcomes ⊢
  obtain ⟨regions, hcompile, hscan, hlines, hgone⟩ : ∃ regions, dropUse.compile = .ok regions ∧
      scanPlan ["use x", "kept"] regions = .ok [⟨"use", [⟨"use", 0, 1⟩]⟩] ∧
      revisedLines ["use x", "kept"] regions [⟨"use", [⟨"use", 0, 1⟩]⟩] = ["kept"] ∧
      residual ["kept"] regions [⟨"use", [⟨"use", 0, 1⟩]⟩] = none := by
    refine ⟨_, rfl, ?_, ?_, ?_⟩
    all_goals decide +kernel
  let doc := Document.parse "use x\nkept\n"
  have hdoc : doc.lines = ["use x", "kept"] := by decide +kernel
  rw [← hdoc] at hscan hlines
  rw [← hlines] at hgone
  have hrevise := revise_eq_ok hscan hgone
  rw [hlines] at hrevise
  have hchanged : doc.withLines ["kept"] ≠ doc := by decide +kernel
  have hrendered : (doc.withLines ["kept"]).render = "kept\n" := by decide +kernel
  have hprepared : Prepared tree path dropUse "use x\nkept\n" _ :=
    ⟨.of_read (by decide +kernel), regions, hcompile, hrevise⟩
  have haccepts : Accepts (fun _ _ => none) tree path (doc.withLines ["kept"]).render.toUTF8 :=
    ⟨"/home/me/notes.tmp", _, by decide +kernel, rfl, rfl⟩
  obtain ⟨-, hdone, hruns⟩ := applyFile_atomic (fun _ _ => none) tree path dropUse true
  obtain ⟨report, later, hrun⟩ := hruns _ _ hprepared rfl fun _ => haccepts
  obtain ⟨text, revision, hfound, -, hwritten⟩ := hdone _ _ hrun
  obtain ⟨rfl, rfl⟩ := hprepared.unique hfound
  obtain ⟨-, hwhole⟩ := hwritten ⟨rfl, hchanged⟩
  rw [hcomes] at hrun
  cases hrun
  rw [hrendered] at hwhole
  exact ⟨hcomes, hwhole⟩

end LineCut
