/-
What a run of the command says about itself.

A run says how it went in three places: by its exit code, by what it prints, and by the files it
leaves behind.  A caller who looks at one of them should not have to look at the others.  That they
agree is plain where a run fails, since a fault has one code, the family of the code decides the
exit code, and a run that fails has changed nothing.  The case to look at is a run that succeeds and
still exits with a failure, because no region was found.  It goes through the decision whether to
write like any other, and what keeps it from writing is that a plan without ranges leaves the
document as it is.

What is printed is the envelope of a result, and what it says is looked up in it by keys.  Whoever
reads the output comes back to that envelope, so the same is said of what a caller looks up there.
-/
import LineCut.CommandLine.Run
import LineCut.Plan.Printer
import LineCut.Proofs.Atomicity
import LineCut.Proofs.Envelope
import LineCut.Proofs.Removal

namespace LineCut

namespace Json

/-! ### Looking into a value -/

/-- What stands in a value under the keys, the outermost first. -/
def at? : Json → List String → Option Json
  | value, [] => some value
  | .obj members, key :: keys => (members.lookup key).bind (at? · keys)
  | _, _ :: _ => none

/-- Where no key occurs twice the order of the members does not matter. -/
theorem lookup_perm {members other : List (String × Json)} (h : members.Perm other)
    (hdistinct : (members.map (·.1)).Nodup) (key : String) :
    members.lookup key = other.lookup key := by
  induction h with
  | nil => rfl
  | cons member _ ih =>
      obtain ⟨name, value⟩ := member
      rw [List.map_cons, List.nodup_cons] at hdistinct
      rw [List.lookup_cons, List.lookup_cons, ih hdistinct.2]
  | swap first second rest =>
      obtain ⟨name, value⟩ := first
      obtain ⟨other, more⟩ := second
      have hne : other ≠ name := by
        rintro rfl
        simp at hdistinct
      by_cases hother : key = other
      · have hname : (other == name) = false := by simpa using hne
        simp [List.lookup_cons, hother, hname]
      · have hfalse : (key == other) = false := by simpa using hother
        simp [List.lookup_cons, hfalse]
  | trans h _ ih ih' =>
      rw [ih hdistinct, ih' ((h.map _).nodup_iff.mp hdistinct)]

theorem lookup_sortedMembers (members : List (String × Json)) (key : String) :
    (sortedMembers members).lookup key = (members.lookup key).map sorted := by
  induction members with
  | nil => rfl
  | cons member rest ih =>
      obtain ⟨name, value⟩ := member
      simp only [sortedMembers, List.lookup_cons, ih]
      cases key == name with
      | true => rfl
      | false => rfl

theorem map_fst_sortedMembers (members : List (String × Json)) :
    (sortedMembers members).map (·.1) = members.map (·.1) := by
  induction members with
  | nil => rfl
  | cons member rest ih => simp [sortedMembers, ih]

/-- **Sorting an object does not change what stands under a key.** -/
theorem at?_sorted_obj {members : List (String × Json)} (hdistinct : (members.map (·.1)).Nodup)
    (key : String) :
    (Json.obj members).sorted.at? [key] = (members.lookup key).map sorted := by
  have hkeys : ((sortedMembers members).map (·.1)).Nodup := by
    rwa [map_fst_sortedMembers]
  have hlookup := lookup_perm
    (List.mergeSort_perm (sortedMembers members) fun a b => a.1 ≤ b.1).symm hkeys key
  rw [lookup_sortedMembers] at hlookup
  simp [sorted, at?, ← hlookup]

end Json

/-! ### Runs that find nothing -/

variable {refuses : Tree → Tree.Request → Option DiskError} {tree : Tree} {path : String}
  {plan : Plan} {write : Bool}

/-- **A document in which nothing is found stays as it is.** -/
theorem output_eq_of_foundCount_eq_zero {doc : Document} {regions : List Region}
    {revision : Revision} (hrevise : doc.revise regions = .ok revision)
    (hnone : foundCount (regionReports regions revision.scans) = 0) : revision.output = doc := by
  have hranges : ∀ p ∈ regions.zip revision.scans, p.2.ranges = [] := by
    intro p hp
    have hmissing := List.countP_eq_zero.mp hnone (.of p.1 p.2) (List.mem_map_of_mem hp)
    by_contra hne
    exact hmissing (RegionScan.found_iff.mpr hne)
  have hedits : editsOf regions revision.scans = [] := by
    rw [editsOf, List.flatMap_eq_nil_iff]
    rintro ⟨region, scan⟩ hp
    rw [List.map_eq_nil_iff]
    exact hranges _ hp
  rw [(revised_of_revise hrevise).output_eq, revisedLines, hedits, Edit.images_nil,
    Document.withLines_lines]

/-- **A run that changes the tree has applied the plan and found a region.** -/
theorem applied_of_ne {result : Except Fault ApplyReport} {after : Tree}
    (hrun : applyFile (Tree.refusingDisk refuses) path plan write tree = (result, after))
    (hchanged : after ≠ tree) :
    ∃ report, result = .ok report ∧ write = true ∧ report.applied = true ∧
      1 ≤ report.regionsFound := by
  have hcomes := run_applyFile refuses tree path plan write
  rw [hrun] at hcomes
  cases hcomes with
  | fails | keeps => exact absurd rfl hchanged
  | @replaces text revision report _ hprepared hwrite hdiffers happlied =>
      obtain ⟨other, regions, another, hother, hcompile, hrevise, hreport⟩ :=
        report_of_applyFile hrun
      obtain ⟨rfl, rfl⟩ := hprepared.unique ⟨hother, regions, hcompile, hrevise⟩
      refine ⟨report, rfl, hwrite, happlied, Nat.one_le_iff_ne_zero.mpr ?_⟩
      intro hnone
      rw [hreport] at hnone
      exact hdiffers (output_eq_of_foundCount_eq_zero hrevise hnone)

namespace CommandLine

/-! ### Actions that leave the tree alone -/

/-- The action leaves every tree as it was. -/
def Keeps {α : Type} (action : StateM Tree α) : Prop :=
  ∀ tree, (action tree).2 = tree

theorem Keeps.pure {α : Type} (value : α) : Keeps (pure value : StateM Tree α) :=
  fun _ => rfl

theorem Keeps.bind {α β : Type} {first : StateM Tree α} {next : α → StateM Tree β}
    (hfirst : Keeps first) (hnext : ∀ value, Keeps (next value)) : Keeps (first >>= next) := by
  intro tree
  rw [run_bind, hnext, hfirst]

/-- A tree that refuses some reads and writes, a home directory and an input around a run, which may
be a terminal. -/
def treeHost (refuses : Tree → Tree.Request → Option DiskError) (home : Option String)
    (terminal : Bool) (input : Except DiskError ByteArray) : Host (StateM Tree) where
  disk := Tree.refusingDisk refuses
  home := home
  terminal := terminal
  input := pure input

variable {home : Option String} {terminal : Bool} {input : Except DiskError ByteArray}

theorem keeps_readText (refuses : Tree → Tree.Request → Option DiskError)
    (path operation : String) : Keeps ((Tree.refusingDisk refuses).readText path operation) := by
  intro tree
  obtain ⟨result, hrun, -⟩ := readText_run refuses tree path operation
  rw [hrun]

theorem keeps_planText (argument : String) :
    Keeps (planText (treeHost refuses home terminal input) argument) := by
  unfold planText
  split
  · split
    · exact .pure _
    · refine .bind (.pure input) ?_
      rintro (error | bytes)
      · exact .pure _
      · exact .pure _
  · split
    · simp only
      split
      · exact .pure _
      · split
        · exact .pure _
        · exact keeps_readText refuses _ _
    · exact .pure _

/-- **Reading the plan and checking the file change nothing.** -/
theorem keeps_operands (file plan : String) :
    Keeps (operands (treeHost refuses home terminal input) file plan) := by
  have hloads : Keeps (loadPlan (treeHost refuses home terminal input) plan) := by
    refine .bind (keeps_planText plan) ?_
    rintro (fault | text)
    · exact .pure _
    · exact .pure _
  have htarget : Keeps (targetFile (treeHost refuses home terminal input) file) := by
    unfold targetFile
    split
    · exact .pure _
    · refine .bind (fun _ => rfl) ?_
      intro isFile
      split
      · exact .pure _
      · exact .pure _
  refine .bind hloads ?_
  rintro (fault | loaded)
  · exact .pure _
  · refine .bind htarget ?_
    rintro (fault | path)
    · exact .pure _
    · exact .pure _

theorem keeps_scan (file plan : String) :
    Keeps (scan (treeHost refuses home terminal input) file plan) := by
  have hscans : ∀ path plan, Keeps (scanFile (Tree.refusingDisk refuses) path plan) := by
    intro path plan
    refine .bind ?_ ?_
    · intro tree
      obtain ⟨result, hrun, -⟩ := load_run refuses tree path plan
      exact congrArg Prod.snd hrun
    · rintro (fault | ⟨doc, regions⟩)
      · exact .pure _
      · simp only
        split
        · exact .pure _
        · exact .pure _
  refine .bind (keeps_operands file plan) ?_
  rintro (fault | ⟨loaded, path⟩)
  · exact .pure _
  · refine .bind (hscans path loaded) ?_
    rintro (fault | report)
    · exact .pure _
    · exact .pure _

/-- **Acting changes the tree only by applying a plan that has found a region.** -/
theorem applied_of_apply {file plan : String} {write : Bool} {result : Result} {after : Tree}
    (hrun : apply (treeHost refuses home terminal input) file plan write tree = (result, after))
    (hchanged : after ≠ tree) :
    ∃ report, result = .applied report ∧ write = true ∧ report.applied = true ∧
      1 ≤ report.regionsFound := by
  have hkeeps : (operands (treeHost refuses home terminal input) file plan tree).2 = tree :=
    keeps_operands file plan tree
  cases hoperands : operands (treeHost refuses home terminal input) file plan tree with
  | mk outcome between =>
      rw [hoperands] at hkeeps
      obtain rfl : between = tree := hkeeps
      rw [apply, run_bind, hoperands] at hrun
      cases outcome with
      | error fault =>
          cases hrun
          exact absurd rfl hchanged
      | ok found =>
          obtain ⟨loaded, path⟩ := found
          simp only [run_bind] at hrun
          cases happlied :
              applyFile (treeHost refuses home terminal input).disk path loaded write between with
          | mk outcome left =>
              rw [happlied] at hrun
              cases outcome with
              | error fault =>
                  cases hrun
                  obtain ⟨report, hreport, -⟩ := applied_of_ne happlied hchanged
                  cases hreport
              | ok report =>
                  cases hrun
                  obtain ⟨found, hfound, hrest⟩ := applied_of_ne happlied hchanged
                  cases hfound
                  exact ⟨report, rfl, hrest⟩

/-! ### What the envelope says -/

/-- The code is one of the family. -/
def OfFamily (family : String) (code : String) : Prop :=
  (family ++ ".").toList <+: code.toList

instance (family code : String) : Decidable (OfFamily family code) :=
  inferInstanceAs (Decidable (_ <+: _))

/-- **The family of a fault's code decides the exit code.** -/
theorem exitCode_iff (fault : Fault) :
    (Fault.exitCode fault = 3 ↔ OfFamily "region" fault.code) ∧
    (Fault.exitCode fault = 2 ↔ OfFamily "config" fault.code ∨ OfFamily "validation" fault.code) ∧
    (Fault.exitCode fault = 1 ↔ OfFamily "internal" fault.code) ∧
    Fault.exitCode fault ≠ 0 := by
  cases fault
  all_goals
    simp only [Fault.exitCode, Fault.code, Fault.family, Fault.kind]
    decide

/-- The exit code says what the envelope says. -/
structure Agrees (exit : Nat) (envelope : Json) : Prop where
  /-- The envelope says whether the run succeeded. -/
  success : ∃ b, envelope.at? ["success"] = some (.bool b)
  /-- Zero stands for a success that has found a region. -/
  zero_iff : exit = 0 ↔ envelope.at? ["success"] = some (.bool true) ∧
    ∃ n, envelope.at? ["data", "regions_found"] = some (.nat n) ∧ 1 ≤ n
  /-- A success tells how many regions were found, and if none was it exits with one. -/
  found : envelope.at? ["success"] = some (.bool true) →
    ∃ n, envelope.at? ["data", "regions_found"] = some (.nat n) ∧ (n = 0 → exit = 1)
  /-- A failure has a code, and exits with what belongs to the family of the code. -/
  failed : envelope.at? ["success"] = some (.bool false) →
    ∃ code, envelope.at? ["error", "code"] = some (.str code) ∧
      (exit = 3 ↔ OfFamily "region" code) ∧
      (exit = 2 ↔ OfFamily "config" code ∨ OfFamily "validation" code) ∧
      (exit = 1 ↔ OfFamily "internal" code)

theorem at?_scanned (report : ScanReport) (key : String) :
    (Result.scanned report).toJson.at? ["data", key] =
      ((("command", Json.str "scan") :: report.members).lookup key).map Json.sorted :=
  Json.at?_sorted_obj (by simp [ScanReport.members]) key

theorem at?_applied (report : ApplyReport) (key : String) :
    (Result.applied report).toJson.at? ["data", key] =
      ((("command", Json.str "apply") :: report.members).lookup key).map Json.sorted :=
  Json.at?_sorted_obj (by simp [ApplyReport.members]) key

/-- A success that tells how many regions were found, and exits by that number, agrees. -/
theorem agrees_of_success {exit : Nat} {envelope : Json} {n : Nat}
    (hsuccess : envelope.at? ["success"] = some (.bool true))
    (hfound : envelope.at? ["data", "regions_found"] = some (.nat n))
    (hexit : exit = if n = 0 then 1 else 0) : Agrees exit envelope where
  success := ⟨true, hsuccess⟩
  zero_iff := by
    rw [hsuccess, hfound, hexit]
    constructor
    · intro hzero
      refine ⟨rfl, n, rfl, ?_⟩
      by_contra hnone
      simp [Nat.lt_one_iff.mp (Nat.lt_of_not_le hnone)] at hzero
    · rintro ⟨-, m, hm, hone⟩
      obtain rfl : n = m := Int.ofNat_inj.mp (by simpa [Json.nat] using hm)
      rw [if_neg (Nat.one_le_iff_ne_zero.mp hone)]
  found _ := ⟨n, hfound, fun hzero => by rw [hexit, if_pos hzero]⟩
  failed hfailed := by
    rw [hsuccess] at hfailed
    cases hfailed

/-- **The exit code of every result says what its envelope says.** -/
theorem agrees_exitCode (result : Result) : Agrees result.exitCode result.toJson := by
  cases result with
  | scanned report => exact agrees_of_success rfl (at?_scanned report "regions_found") rfl
  | applied report => exact agrees_of_success rfl (at?_applied report "regions_found") rfl
  | failed fault =>
      obtain ⟨hregion, hplan, hinternal, hnonzero⟩ := exitCode_iff fault
      have hfailed : (Result.failed fault).toJson.at? ["success"] = some (.bool false) := rfl
      constructor
      · exact ⟨false, hfailed⟩
      · rw [hfailed]
        simpa [Result.exitCode] using hnonzero
      · intro hsuccess
        rw [hfailed] at hsuccess
        cases hsuccess
      · exact fun _ => ⟨fault.code, rfl, hregion, hplan, hinternal⟩

/-! ### Whole runs -/

/-- The arguments ask for a scan or for an action, and not for the version or for help. -/
def Asks (arguments : List String) : Prop :=
  (∃ file plan, Invocation.parse? arguments = some (.scan file plan)) ∨
    ∃ file plan write, Invocation.parse? arguments = some (.apply file plan write)

/-- **A run that changes the tree has acted**, was asked to write, and has found a region. -/
theorem changed_of_run {arguments : List String} {outcome : Outcome} {after : Tree}
    (hrun : run (treeHost refuses home terminal input) arguments tree = (outcome, after))
    (hchanged : after ≠ tree) :
    (∃ file plan, Invocation.parse? arguments = some (.apply file plan true)) ∧
      ∃ report, outcome = (Result.applied report).outcome ∧ report.applied = true ∧
        1 ≤ report.regionsFound := by
  cases hparse : Invocation.parse? arguments with
  | none =>
      simp only [run, hparse] at hrun
      cases hrun
      exact absurd rfl hchanged
  | some invocation =>
      simp only [run, hparse] at hrun
      cases invocation with
      | version | help =>
          cases hrun
          exact absurd rfl hchanged
      | scan file plan =>
          cases hrun
          exact absurd (keeps_scan file plan tree) hchanged
      | apply file plan write =>
          cases hacted : apply (treeHost refuses home terminal input) file plan write tree with
          | mk result left =>
              simp only [run_bind, hacted] at hrun
              cases hrun
              obtain ⟨report, rfl, rfl, happlied, hfound⟩ := applied_of_apply hacted hchanged
              exact ⟨⟨file, plan, rfl⟩, report, rfl, happlied, hfound⟩

/-- A run that is asked to act leaves behind what acting comes to. -/
theorem run_of_apply {host : Host (StateM Tree)} {arguments : List String} {file plan : String}
    {write : Bool} {result : Result} {after : Tree}
    (hparse : Invocation.parse? arguments = some (.apply file plan write))
    (happlied : apply host file plan write tree = (result, after)) :
    run host arguments tree = (result.outcome, after) := by
  simp only [run, hparse, run_bind, happlied]
  rfl

/-- A run that was asked for a scan or an action comes to a result. -/
theorem exists_result_of_run {arguments : List String} {outcome : Outcome} {after : Tree}
    (hrun : run (treeHost refuses home terminal input) arguments tree = (outcome, after))
    (hasks : Asks arguments) : ∃ result : Result, outcome = result.outcome := by
  rcases hasks with ⟨file, plan, hparse⟩ | ⟨file, plan, write, hparse⟩
  · simp only [run, hparse] at hrun
    cases hrun
    exact ⟨_, rfl⟩
  · simp only [run, hparse] at hrun
    cases hrun
    exact ⟨_, rfl⟩

/--
**What a run exits with, what it prints and what it leaves behind agree.**  A run that does not exit
with zero leaves the tree as it was.  One that leaves another tree behind was asked to act and to
write, exits with zero, and prints that it succeeded, that the plan was applied and that a region
was found.  And whenever the arguments ask for a scan or an action, the exit code says what the
printed envelope says.  What is said of the envelope is said of the output, which reads back as it
as long as its integers have 64 bits.
-/
theorem run_agrees (refuses : Tree → Tree.Request → Option DiskError) (home : Option String)
    (terminal : Bool) (input : Except DiskError ByteArray) (tree : Tree)
    (arguments : List String) :
    ∀ outcome after, run (treeHost refuses home terminal input) arguments tree = (outcome, after) →
      (outcome.exit ≠ 0 → after = tree) ∧
      (after ≠ tree → (∃ file plan, Invocation.parse? arguments = some (.apply file plan true)) ∧
        outcome.exit = 0 ∧ ∃ result : Result, outcome = result.outcome ∧
          Prints outcome.output result.toJson ∧
          result.toJson.at? ["success"] = some (.bool true) ∧
          result.toJson.at? ["data", "applied"] = some (.bool true) ∧
          ∃ n, result.toJson.at? ["data", "regions_found"] = some (.nat n) ∧ 1 ≤ n) ∧
      (Asks arguments → ∃ result : Result, outcome = result.outcome ∧
        Prints outcome.output result.toJson ∧ Agrees outcome.exit result.toJson) := by
  intro outcome after hrun
  have hzero : ∀ report : ApplyReport, 1 ≤ report.regionsFound →
      (Result.applied report).exitCode = 0 := by
    intro report hfound
    exact if_neg (Nat.one_le_iff_ne_zero.mp hfound)
  refine ⟨?_, ?_, ?_⟩
  · intro hexit
    by_contra hchanged
    obtain ⟨-, report, rfl, -, hfound⟩ := changed_of_run hrun hchanged
    exact hexit (hzero report hfound)
  · intro hchanged
    obtain ⟨hparse, report, rfl, happlied, hfound⟩ := changed_of_run hrun hchanged
    refine ⟨hparse, hzero report hfound, .applied report, rfl, Result.prints _, rfl, ?_,
      report.regionsFound, at?_applied report "regions_found", hfound⟩
    rw [at?_applied report "applied", ← happlied]
    rfl
  · intro hasks
    obtain ⟨result, rfl⟩ := exists_result_of_run hrun hasks
    exact ⟨result, rfl, result.prints, agrees_exitCode result⟩

/-- Carry out the plan of that text on the notes in the home directory. -/
def applyToNotes (plan : String) : List String :=
  ["apply", "~/notes", "--plan", plan, "--write"]

/-- The envelope of the report on the notes. -/
def dropUseEnvelope : Json :=
  .obj [("success", .bool true),
    ("data", .obj [("applied", .bool true), ("command", .str "apply"), ("delta", .int (-1)),
      ("dry_run", .bool false), ("file", .str "/home/me/notes"), ("line_ending", .str "lf"),
      ("lines_inserted", .int 0), ("lines_removed", .int 1), ("new_lines", .int 1),
      ("original_lines", .int 2),
      ("regions", .arr [.obj [("found", .bool true), ("lines_inserted", .int 0),
        ("lines_removed", .int 1), ("name", .str "use"),
        ("ranges", .arr [.obj [("end_index", .int 1), ("end_line", .int 1), ("lines", .int 1),
          ("start_index", .int 0), ("start_line", .int 1)]])]]),
      ("regions_found", .int 1)])]

/-- What is printed for the notes. -/
def dropUseOutput : Document where
  lines := ["\x7b", "  \"success\": true,", "  \"data\": \x7b", "    \"applied\": true,",
    "    \"command\": \"apply\",", "    \"delta\": -1,", "    \"dry_run\": false,",
    "    \"file\": \"/home/me/notes\",", "    \"line_ending\": \"lf\",",
    "    \"lines_inserted\": 0,", "    \"lines_removed\": 1,", "    \"new_lines\": 1,",
    "    \"original_lines\": 2,", "    \"regions\": [", "      \x7b", "        \"found\": true,",
    "        \"lines_inserted\": 0,", "        \"lines_removed\": 1,", "        \"name\": \"use\",",
    "        \"ranges\": [", "          \x7b", "            \"end_index\": 1,",
    "            \"end_line\": 1,", "            \"lines\": 1,", "            \"start_index\": 0,",
    "            \"start_line\": 1", "          \x7d", "        ]", "      \x7d", "    ],",
    "    \"regions_found\": 1", "  \x7d", "\x7d"]
  ending := .lf
  trailing := true

theorem toJson_dropUseReport :
    (Result.applied (dropUseReport "/home/me/notes")).toJson = dropUseEnvelope := by
  simp [Result.toJson, dropUseReport, dataJson, ApplyReport.members, ApplyReport.regionsFound,
    ApplyReport.delta, foundCount, RegionReport.toJson, RangeReport.toJson, Terminator.name,
    Json.nat, Json.sorted, Json.sortedMembers, Json.sortedItems, List.mergeSort,
    List.MergeSort.Internal.splitInTwo, dropUseEnvelope]

theorem outcome_dropUseReport :
    (Result.applied (dropUseReport "/home/me/notes")).outcome = ⟨0, dropUseOutput.render⟩ := by
  have hchars : Json.prettyChars 0 dropUseEnvelope ++ ['\n'] = dropUseOutput.renderChars := by
    decide +kernel
  rw [Result.outcome, toJson_dropUseReport, Document.render, ← hchars, String.ofList_append]
  rfl

theorem apply_dropUse :
    apply (treeHost (fun _ _ => none) (some "/home/me") false (.ok .empty)) "~/notes"
      dropUse.print true (notesAtHome "use x\nkept\n") =
        (.applied (dropUseReport "/home/me/notes"), notesAtHome "kept\n") := by
  change @Eq (Result × Tree) _ _
  decide +kernel

/-- A run deletes the use from the notes, exits with zero and says so, and what it says can be read.
One that is to wait for its plan at a terminal exits with two and changes nothing. -/
theorem run_agrees_drop_use :
    let host terminal := treeHost (fun _ _ => none) (some "/home/me") terminal (.ok .empty)
    let tree := notesAtHome "use x\nkept\n"
    let typed := Fault.invalidArgument "plan" "Cannot read plan from stdin when stdin is a TTY"
    (run (host false) (applyToNotes dropUse.print) tree =
        (⟨0, dropUseOutput.render⟩, notesAtHome "kept\n") ∧
      notesAtHome "kept\n" ≠ tree ∧
      Json.whole (Json.value Json.nestingLimit) dropUseOutput.render = .ok dropUseEnvelope ∧
      ∃ result : Result, ⟨0, dropUseOutput.render⟩ = result.outcome ∧
        result.toJson.at? ["success"] = some (.bool true) ∧
        result.toJson.at? ["data", "applied"] = some (.bool true)) ∧
    run (host true) (applyToNotes "-") tree = ((Result.failed typed).outcome, tree) ∧
      ∃ result : Result, (Result.failed typed).outcome = result.outcome ∧
        Agrees 2 result.toJson := by
  intro host tree typed
  have hchanged : notesAtHome "kept\n" ≠ tree := by
    change notesAtHome "kept\n" ≠ notesAtHome "use x\nkept\n"
    decide +kernel
  have hrun : run (host false) (applyToNotes dropUse.print) tree =
      (⟨0, dropUseOutput.render⟩, notesAtHome "kept\n") := by
    rw [← outcome_dropUseReport]
    exact run_of_apply (by decide +kernel) apply_dropUse
  have hparse : Invocation.parse? (applyToNotes "-") = some (.apply "~/notes" "-" true) := by
    decide +kernel
  have htyped : run (host true) (applyToNotes "-") tree =
      ((Result.failed typed).outcome, tree) := run_of_apply hparse rfl
  have hreads := (Result.applied (dropUseReport "/home/me/notes")).prints.reads
  rw [toJson_dropUseReport, outcome_dropUseReport] at hreads
  have hagree := run_agrees (fun _ _ => none) (some "/home/me")
  obtain ⟨-, hacts, -⟩ := hagree false (.ok .empty) tree _ _ _ hrun
  obtain ⟨-, -, hsays⟩ := hagree true (.ok .empty) tree _ _ _ htyped
  obtain ⟨-, -, result, hresult, -, hsuccess, happlied, -⟩ := hacts hchanged
  obtain ⟨failed, hfailed, -, hagrees⟩ := hsays (.inr ⟨_, _, _, hparse⟩)
  refine ⟨⟨hrun, hchanged, hreads ?_, result, hresult, hsuccess, happlied⟩, htyped, failed, hfailed,
    hagrees⟩
  simp [dropUseEnvelope, Json.Plain, Json.PlainItems, Json.PlainMembers]

end CommandLine

end LineCut
