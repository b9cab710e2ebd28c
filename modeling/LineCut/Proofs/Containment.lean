/-
What a run leaves alone.

A run writes under one path and under one more that it makes up: the file beside the target, whose
name is the target's with `.tmp` behind it.  Everything it does to the tree it does through these
two, so no other entry can change, and that does not depend on how the run ends.  To see it one has
to look at the bad endings as well.  A disk that breaks a write off leaves part of the new text in
the file beside the target, one that will not rename leaves all of it, and one that then will not
remove the file leaves it for good.  `frailDisk` is a tree on which all of this may happen, as often
as it likes.

The file beside the target is the price.  Somebody may have had a file of that name, and once a run
has begun to write, that file is gone.  A run that does not get so far leaves it as it was.

All of this is said of trees without links.  Where the name beside the target is a link, what is
written goes to the file that it leads to, and that may be anywhere.
-/
import LineCut.Proofs.Atomicity

namespace LineCut

namespace Tree

/-! ### Trees on which operations break off -/

/-- What may go wrong on a disk that has not refused. -/
structure Mishaps where
  /-- A writing that breaks off, with the bytes that it leaves. -/
  breaksOff : Tree → String → ByteArray → Option (ByteArray × DiskError)
  /-- A renaming that does not happen. -/
  stuck : Tree → String → String → Option DiskError
  /-- A removal that does not happen. -/
  kept : Tree → String → Bool

/-- A tree that refuses some reads and writes, and on which some of what it does not refuse goes
wrong. -/
def frailDisk (refuses : Tree → Request → Option DiskError) (mishaps : Mishaps) :
    Disk (StateM Tree) :=
  { refusingDisk refuses with
    write := fun path content tree =>
      match mishaps.breaksOff tree path content with
      | some (part, error) =>
        match granted refuses tree (.write path content) (tree.write path part) with
        | .ok broken => (.error error, broken)
        | .error refusal => (.error refusal, tree)
      | none => (refusingDisk refuses).write path content tree
    rename := fun source target tree =>
      match mishaps.stuck tree source target with
      | some error => (.error error, tree)
      | none => disk.rename source target tree
    remove := fun path tree =>
      if mishaps.kept tree path then ((), tree) else disk.remove path tree }

/-- Nothing goes wrong. -/
def Mishaps.none : Mishaps where
  breaksOff _ _ _ := .none
  stuck _ _ _ := .none
  kept _ _ := false

/-- A tree on which nothing goes wrong only refuses. -/
theorem frailDisk_none (refuses : Tree → Request → Option DiskError) :
    frailDisk refuses .none = refusingDisk refuses := rfl

variable {refuses : Tree → Request → Option DiskError} {mishaps : Mishaps} {tree : Tree}
  {path : String} {directory : Location} {name : String} {content fresh : ByteArray}

/-- What can become of a tree in which a file is to be replaced. -/
inductive Replacing (tree : Tree) (directory : Location) (name : String) (fresh : ByteArray) :
    Except Fault Unit × Tree → Prop
  /-- Nothing has been written. -/
  | refused {fault : Fault} : Replacing tree directory name fresh (.error fault, tree)
  /-- The file beside it has been written, whole or in part, and is still there. -/
  | left {fault : Fault} {bytes : ByteArray}
      (hnot : tree.isDirectory (LeadsTo.beside directory name) = false) :
      Replacing tree directory name fresh
        (.error fault, tree.put (LeadsTo.beside directory name) (.file bytes))
  /-- The file beside it has been written and removed. -/
  | removed {fault : Fault}
      (hnot : tree.isDirectory (LeadsTo.beside directory name) = false) :
      Replacing tree directory name fresh
        (.error fault, (tree.put (LeadsTo.beside directory name) (.file fresh)).erase
          (LeadsTo.beside directory name))
  /-- The file beside it has been written and has taken its place. -/
  | replaced (hnot : tree.isDirectory (LeadsTo.beside directory name) = false) :
      Replacing tree directory name fresh (.ok (), LeadsTo.replaced tree directory name fresh)

namespace LeadsTo

/-- Once the file beside it is written, it is also what is removed. -/
theorem remove_temporary {temporary : String}
    (hlocated : tree.locate temporary = .ok (beside directory name))
    (hnot : tree.isDirectory (beside directory name) = false) :
    (tree.put (beside directory name) (.file fresh)).remove temporary =
      (tree.put (beside directory name) (.file fresh)).erase (beside directory name) := by
  have hsource : (tree.put (beside directory name) (.file fresh)).locate temporary =
      .ok (beside directory name) :=
    (keepsDirectories_put beside_ne_nil hnot).follow_ok hlocated
  simp only [remove, hsource, get?_put beside_ne_nil, if_true]

/-- **Replacing a file comes to one of four things**, whatever goes wrong. -/
theorem replaceText_run (h : LeadsTo tree path directory name content)
    (refuses : Tree → Request → Option DiskError) (mishaps : Mishaps) (text operation : String) :
    Replacing tree directory name text.toUTF8
      ((frailDisk refuses mishaps).replaceText path text operation tree) := by
  obtain ⟨front, hpieces, -⟩ := h.pieces_eq
  have htemporary := Path.temporary?_of_pieces hpieces h.isName
  generalize Path.join (Path.trimEnd front) (name ++ ".tmp") = temporary at htemporary
  simp only [Disk.replaceText, htemporary, run_bind]
  cases hbroken : mishaps.breaksOff tree temporary text.toUTF8 with
  | some broken =>
      obtain ⟨part, error⟩ := broken
      cases hpart : granted refuses tree (.write temporary text.toUTF8)
          (tree.write temporary part) with
      | error refusal =>
          simp only [frailDisk, hbroken, hpart]
          exact .refused
      | ok written =>
          obtain ⟨-, hwritten⟩ := granted_ok_iff.mp hpart
          obtain ⟨-, hnot, rfl⟩ := h.write_temporary htemporary hwritten
          simp only [frailDisk, hbroken, hpart]
          exact .left hnot
  | none =>
      cases hwrite : granted refuses tree (.write temporary text.toUTF8)
          (tree.write temporary text.toUTF8) with
      | error refusal =>
          simp only [frailDisk, hbroken, refusingDisk, step, hwrite]
          exact .refused
      | ok written =>
          obtain ⟨-, hwritten⟩ := granted_ok_iff.mp hwrite
          obtain ⟨hlocated, hnot, rfl⟩ := h.write_temporary htemporary hwritten
          simp only [frailDisk, hbroken, refusingDisk, step, hwrite]
          cases hstuck : mishaps.stuck (tree.put (beside directory name) (.file text.toUTF8))
              temporary path with
          | none =>
              simp only [run_bind, hstuck, disk, step, h.rename_temporary hlocated hnot]
              exact .replaced hnot
          | some error =>
              simp only [hstuck, run_bind]
              split
              · exact .left hnot
              · simp only [disk, remove_temporary hlocated hnot]
                exact .removed hnot

end LeadsTo

/-- The path leads to the file that is written before another one takes its place: the other one's
name with `.tmp` behind it, in the same directory. -/
def LiesBeside (tree : Tree) (path : String) (location : Location) : Prop :=
  ∃ directory name, tree.locate path = .ok (directory ++ [name]) ∧
    location = LeadsTo.beside directory name

/-- A path leads to one place only, so there is one place beside it. -/
theorem liesBeside_iff {location : Location} (h : tree.locate path = .ok (directory ++ [name])) :
    tree.LiesBeside path location ↔ location = LeadsTo.beside directory name := by
  constructor
  · rintro ⟨other, last, hother, rfl⟩
    rw [h, Except.ok.injEq] at hother
    obtain ⟨rfl, hlast⟩ := List.append_inj' hother rfl
    cases hlast
    rfl
  · rintro rfl
    exact ⟨directory, name, h, rfl⟩

/-- **All entries but two stay as they are**, whatever becomes of the replacement. -/
theorem Replacing.get?_eq {outcome : Except Fault Unit} {after : Tree}
    (h : Replacing tree directory name fresh (outcome, after)) {location : Location}
    (htarget : location ≠ directory ++ [name])
    (hbeside : location ≠ LeadsTo.beside directory name) :
    after.get? location = tree.get? location := by
  cases h with
  | refused => rfl
  | left => rw [get?_put LeadsTo.beside_ne_nil, if_neg hbeside]
  | removed =>
      rw [get?_erase LeadsTo.beside_ne_nil, if_neg hbeside, get?_put LeadsTo.beside_ne_nil,
        if_neg hbeside]
  | replaced => rw [LeadsTo.get?_replaced, if_neg htarget, if_neg hbeside]

/-- A directory beside the file is in the way, and stays. -/
theorem Replacing.eq_of_isDirectory {outcome : Except Fault Unit} {after : Tree}
    (h : Replacing tree directory name fresh (outcome, after))
    (hdirectory : tree.isDirectory (LeadsTo.beside directory name) = true) : after = tree := by
  cases h with
  | refused => rfl
  | left hnot | removed hnot | replaced hnot => simp [hdirectory] at hnot

end Tree

variable {refuses : Tree → Tree.Request → Option DiskError} {mishaps : Tree.Mishaps} {tree : Tree}
  {path : String} {plan : Plan} {write : Bool}

/-! ### Runs -/

/-- What a run can come to on a tree on which operations break off. -/
inductive Touching (tree : Tree) (path : String) (plan : Plan) (write : Bool) :
    Except Fault ApplyReport × Tree → Prop
  /-- It does not get as far as writing. -/
  | spares {result : Except Fault ApplyReport}
      (hspared : ∀ report, result = .ok report → report.applied = false) :
      Touching tree path plan write (result, tree)
  /-- It begins to replace the file. -/
  | begins {directory : Location} {name text : String} {content : ByteArray} {revision : Revision}
      {outcome : Except Fault Unit} {result : Except Fault ApplyReport} {after : Tree}
      (hleads : Tree.LeadsTo tree path directory name content) (hwrite : write = true)
      (hprepared : Prepared tree path plan text revision) (hchanged : revision.output ≠ .parse text)
      (hreplacing : Tree.Replacing tree directory name revision.output.render.toUTF8
        (outcome, after))
      (happlied : ∀ report, result = .ok report → report.applied = true ∧ outcome = .ok ()) :
      Touching tree path plan write (result, after)

/-- **Every run is one of these.** -/
theorem touching_applyFile (refuses : Tree → Tree.Request → Option DiskError)
    (mishaps : Tree.Mishaps) (tree : Tree) (path : String) (plan : Plan) (write : Bool) :
    Touching tree path plan write
      (applyFile (Tree.frailDisk refuses mishaps) path plan write tree) := by
  obtain ⟨loaded, hload, hok⟩ := load_run refuses tree path plan
  -- Loading only reads, so nothing goes wrong with it here that would not anyway.
  have hfrail : load (Tree.frailDisk refuses mishaps) path plan tree = (loaded, tree) := hload
  cases loaded with
  | error fault =>
      rw [applyFile_of_load_error hfrail]
      exact .spares (by simp)
  | ok loaded =>
      obtain ⟨doc, regions⟩ := loaded
      obtain ⟨hcompile, -, text, htext, rfl⟩ := (hok doc regions).mp rfl
      rw [applyFile_of_load hfrail]
      cases hrevise : (Document.parse text).revise regions with
      | error fault => exact .spares (by simp)
      | ok revision =>
          simp only
          split
          · rename_i hcond
            obtain ⟨hwrite, hchanged⟩ : write = true ∧ revision.output ≠ .parse text := by
              simpa using hcond
            have hprepared : Prepared tree path plan text revision :=
              ⟨htext, regions, hcompile, hrevise⟩
            obtain ⟨bytes, hbytes, -⟩ := htext
            obtain ⟨directory, name, hleads⟩ := Tree.exists_leadsTo_of_read hbytes
            have hreplacing := hleads.replaceText_run refuses mishaps revision.output.render
              ("write " ++ path)
            split
            · rename_i fault after hrun
              rw [hrun] at hreplacing
              exact .begins hleads hwrite hprepared hchanged hreplacing (by simp)
            · rename_i after hrun
              rw [hrun] at hreplacing
              refine .begins hleads hwrite hprepared hchanged hreplacing ?_
              intro report hreport
              cases hreport
              exact ⟨rfl, rfl⟩
          · refine .spares ?_
            intro report hreport
            cases hreport
            rfl

/--
**A run touches its target and the file beside it, and nothing else**, whatever it comes to and
whatever goes wrong.  The file beside the target changes only in a run that was asked to write and
has something to write, and not if a directory is there.  So it is as it was after a run that has
not been applied, and if operations that fail change nothing, after every run that fails.  After a
run that has been applied nothing is there.
-/
theorem applyFile_touches (refuses : Tree → Tree.Request → Option DiskError)
    (mishaps : Tree.Mishaps) (tree : Tree) (path : String) (plan : Plan) (write : Bool) :
    ∀ result after,
      applyFile (Tree.frailDisk refuses mishaps) path plan write tree = (result, after) →
      (∀ location, tree.locate path ≠ .ok location → ¬ tree.LiesBeside path location →
        after.get? location = tree.get? location) ∧
      (∀ location, tree.LiesBeside path location → after.get? location ≠ tree.get? location →
        write = true ∧ tree.isDirectory location = false ∧
          ∃ text revision, Prepared tree path plan text revision ∧
            revision.output ≠ .parse text) ∧
      (∀ fault, result = .error fault → mishaps = .none → after = tree) ∧
      ∀ report, result = .ok report →
        (report.applied = false → after = tree) ∧
        (report.applied = true → ∀ location, tree.LiesBeside path location →
          after.get? location = none) := by
  intro result after hrun
  have htouching := touching_applyFile refuses mishaps tree path plan write
  have hfails : ∀ fault, result = .error fault → mishaps = .none → after = tree := by
    rintro fault rfl rfl
    have hcomes := run_applyFile refuses tree path plan write
    rw [← Tree.frailDisk_none, hrun] at hcomes
    cases hcomes with
    | fails => rfl
  rw [hrun] at htouching
  cases htouching with
  | spares hspared =>
      refine ⟨fun _ _ _ => rfl, fun _ _ hne => absurd rfl hne, hfails, ?_⟩
      intro report hreport
      refine ⟨fun _ => rfl, ?_⟩
      intro happlied
      rw [hspared report hreport] at happlied
      cases happlied
  | @begins directory name text content revision outcome _ _ hleads hwrite hprepared hchanged
      hreplacing happlied =>
      have hbeside : ∀ location, tree.LiesBeside path location ↔
          location = Tree.LeadsTo.beside directory name := fun location =>
        Tree.liesBeside_iff hleads.located
      refine ⟨?_, ?_, hfails, ?_⟩
      · intro location htarget hnot
        refine hreplacing.get?_eq ?_ ?_
        · rintro rfl
          exact htarget hleads.located
        · exact fun heq => hnot ((hbeside location).mpr heq)
      · intro location hlies hne
        obtain rfl := (hbeside location).mp hlies
        refine ⟨hwrite, ?_, text, revision, hprepared, hchanged⟩
        by_contra hdirectory
        rw [hreplacing.eq_of_isDirectory (by simpa using hdirectory)] at hne
        exact hne rfl
      · intro report hreport
        obtain ⟨hdone, rfl⟩ := happlied report hreport
        refine ⟨by simp [hdone], ?_⟩
        intro _ location hlies
        obtain rfl := (hbeside location).mp hlies
        cases hreplacing with
        | replaced =>
            rw [Tree.LeadsTo.get?_replaced, if_neg Tree.LeadsTo.beside_ne.symm, if_pos rfl]

/-- Notes, a file beside them that somebody has put there, and another file. -/
def notesAndNeighbours : Tree :=
  ((notesAtHome "use x\nkept\n").addFile ["home", "me", "notes.tmp"] "mine\n".toUTF8).addFile
    ["home", "me", "other"] "use y\n".toUTF8

/-- The use is deleted; the other file is as it was, and nothing is left beside the notes. -/
theorem applyFile_touches_drop_use :
    let tree := notesAndNeighbours
    let path := "../home/me/notes"
    let after := (notesAtHome "kept\n").addFile ["home", "me", "other"] "use y\n".toUTF8
    applyFile (Tree.frailDisk (fun _ _ => none) .none) path dropUse true tree =
        (.ok (dropUseReport path), after) ∧
      tree.locate path ≠ .ok ["home", "me", "other"] ∧
      ¬ tree.LiesBeside path ["home", "me", "other"] ∧
      after.get? ["home", "me", "other"] = tree.get? ["home", "me", "other"] ∧
      tree.LiesBeside path ["home", "me", "notes.tmp"] ∧
      after.get? ["home", "me", "notes.tmp"] = none := by
  intro tree path after
  have hrun : applyFile (Tree.frailDisk (fun _ _ => none) .none) path dropUse true tree =
      (.ok (dropUseReport path), after) := by
    change @Eq (Except Fault ApplyReport × Tree) _ _
    decide +kernel
  have hlocated : tree.locate path = .ok (["home", "me"] ++ ["notes"]) := by decide +kernel
  have htarget : tree.locate path ≠ .ok ["home", "me", "other"] := by
    rw [hlocated]
    decide
  have hapart : ¬ tree.LiesBeside path ["home", "me", "other"] := by
    rw [Tree.liesBeside_iff hlocated]
    decide
  have hlies : tree.LiesBeside path ["home", "me", "notes.tmp"] :=
    (Tree.liesBeside_iff hlocated).mpr (by decide)
  obtain ⟨hothers, -, -, hdone⟩ :=
    applyFile_touches (fun _ _ => none) .none tree path dropUse true _ _ hrun
  exact ⟨hrun, htarget, hapart, hothers _ htarget hapart, hlies, (hdone _ rfl).2 rfl _ hlies⟩

/-- So a file that somebody had beside the target under that name is lost. -/
theorem file_beside_target_lost :
    let tree := notesAndNeighbours
    let path := "/home/me/notes"
    tree.locate path ≠ .ok ["home", "me", "notes.tmp"] ∧
      tree.get? ["home", "me", "notes.tmp"] = some (.file "mine\n".toUTF8) ∧
      (applyFile Tree.disk path dropUse true tree).2.get? ["home", "me", "notes.tmp"] ≠
        tree.get? ["home", "me", "notes.tmp"] := by
  intro tree path
  have hthere : tree.get? ["home", "me", "notes.tmp"] = some (.file "mine\n".toUTF8) := rfl
  have hgone : ((applyFile Tree.disk path dropUse true tree).2.get?
      ["home", "me", "notes.tmp"]).isNone = true := by decide +kernel
  refine ⟨by decide +kernel, hthere, ?_⟩
  rw [hthere, Option.isNone_iff_eq_none.mp hgone]
  exact nofun

end LineCut
