/-
What a run prints can be read.

A run prints one JSON value on several lines and ends the last one.  Whoever calls it reads that
text and not the value it was made of, so what is said of the value is worth something only if
reading gives it back.  Two things could stand in the way.  A reader does not follow brackets
deeper than it dares; the values that are printed nest no deeper than six, whatever the run has
found, and sorting the members of an object does not nest them deeper.  And a number is read as the
integer it is only if that has 64 bits, which is all that has to be asked of a result.
-/
import LineCut.CommandLine.Run
import LineCut.Proofs.Values

namespace LineCut

namespace Json

/-! ### How deep a value nests -/

theorem depthItems_le_iff {items : List Json} {n : Nat} :
    depthItems items ≤ n ↔ ∀ item ∈ items, item.depth ≤ n := by
  induction items with
  | nil => simp [depthItems]
  | cons item rest ih => rw [depthItems, Nat.max_le, ih, List.forall_mem_cons]

theorem depthMembers_le_iff {members : List (String × Json)} {n : Nat} :
    depthMembers members ≤ n ↔ ∀ member ∈ members, member.2.depth ≤ n := by
  induction members with
  | nil => simp [depthMembers]
  | cons member rest ih => rw [depthMembers, Nat.max_le, ih, List.forall_mem_cons]

theorem depth_arr_le {items : List Json} {n : Nat} (h : ∀ item ∈ items, item.depth ≤ n) :
    (Json.arr items).depth ≤ n + 1 :=
  Nat.succ_le_succ (depthItems_le_iff.mpr h)

theorem depth_obj_le {members : List (String × Json)} {n : Nat}
    (h : ∀ member ∈ members, member.2.depth ≤ n) : (Json.obj members).depth ≤ n + 1 :=
  Nat.succ_le_succ (depthMembers_le_iff.mpr h)

mutual

/-- **Sorting nests nothing deeper.** -/
theorem depth_sorted_le : ∀ value : Json, value.sorted.depth ≤ value.depth
  | .null | .bool _ | .int _ | .real _ | .str _ => Nat.le_refl _
  | .arr items => Nat.succ_le_succ (depthItems_sortedItems_le items)
  | .obj members => by
    have hmembers := depthMembers_sortedMembers_le members
    rw [depthMembers_le_iff] at hmembers
    refine depth_obj_le ?_
    intro member hmem
    exact hmembers member (List.mem_mergeSort.mp hmem)

theorem depthItems_sortedItems_le : ∀ items : List Json,
    depthItems (sortedItems items) ≤ depthItems items
  | [] => Nat.le_refl _
  | item :: rest => by
    have hitem := depth_sorted_le item
    have hrest := depthItems_sortedItems_le rest
    simp only [sortedItems, depthItems]
    omega

theorem depthMembers_sortedMembers_le : ∀ members : List (String × Json),
    depthMembers (sortedMembers members) ≤ depthMembers members
  | [] => Nat.le_refl _
  | (_, value) :: rest => by
    have hvalue := depth_sorted_le value
    have hrest := depthMembers_sortedMembers_le rest
    simp only [sortedMembers, depthMembers]
    omega

end

/-- **What is printed on several lines is read back**, with a line end behind it. -/
theorem whole_pretty {v : Json} {limit : Nat} (hplain : v.Plain) (hdepth : v.depth ≤ limit) :
    whole (value limit) (v.pretty ++ "\n") = .ok v := by
  have htext : v.pretty ++ "\n" = String.ofList ([] ++ (prettyChars 0 v ++ ['\n'])) := by
    rw [pretty, List.nil_append, String.ofList_append]
  have hend : Blanks ['\n'] := blanks_newLine 0
  rw [htext]
  exact whole_of_reads (reads_value limit v hdepth) (spells_prettyChars 0 hplain) blanks_nil hend

end Json

namespace CommandLine

open Json

/-! ### What is told -/

theorem depth_rangeReport_le (report : RangeReport) : report.toJson.depth ≤ 1 :=
  Nat.le_refl _

theorem depth_regionReport_le (report : RegionReport) : report.toJson.depth ≤ 3 := by
  have hranges : depthItems (report.ranges.map RangeReport.toJson) ≤ 1 := by
    rw [depthItems_le_iff, List.forall_mem_map]
    exact fun range _ => depth_rangeReport_le range
  refine depth_obj_le ?_
  simpa [depth, nat] using hranges

theorem depth_regions_le (reports : List RegionReport) :
    (Json.arr (reports.map RegionReport.toJson)).depth ≤ 4 := by
  refine depth_arr_le ?_
  rw [List.forall_mem_map]
  exact fun report _ => depth_regionReport_le report

theorem depth_dataJson_le {command : String} {members : List (String × Json)}
    (h : ∀ member ∈ members, member.2.depth ≤ 4) : (dataJson command members).depth ≤ 5 := by
  refine Nat.le_trans (depth_sorted_le _) (depth_obj_le ?_)
  rw [List.forall_mem_cons]
  exact ⟨Nat.zero_le 4, h⟩

theorem depth_details_le (fault : Fault) : fault.details.depth ≤ 2 := by
  cases fault with
  | invalidValue key value problem =>
    cases value with
    | none => exact Nat.le_succ 1
    | some value => exact Nat.le_succ 1
  | io error context | json error context =>
    cases context with
    | none => exact Nat.le_succ 1
    | some context => exact Nat.le_succ 1
  | overlap first second => exact Nat.le_refl 2
  | _ => exact Nat.le_succ 1

theorem depth_faultJson_le (fault : Fault) : (faultJson fault).depth ≤ 3 := by
  have hdetails := Nat.le_trans (depth_sorted_le _) (depth_details_le fault)
  have hhints :
      (Json.arr (fault.hints.map fun hint => .obj [("message", .str hint)])).depth ≤ 2 := by
    refine depth_arr_le ?_
    rw [List.forall_mem_map]
    exact fun hint _ => Nat.le_refl 1
  refine depth_obj_le ?_
  cases hempty : fault.hints.isEmpty with
  | true => simpa [depth] using hdetails
  | false => simpa [depth] using And.intro hdetails hhints

/-- **The envelope of every result nests no deeper than six.** -/
theorem depth_toJson_le (result : Result) : result.toJson.depth ≤ 6 := by
  cases result with
  | scanned report =>
    have hdata : (dataJson "scan" report.members).depth ≤ 5 := by
      refine depth_dataJson_le ?_
      simpa [ScanReport.members, depth, nat] using depth_regions_le report.regions
    exact depth_obj_le (by simpa [depth] using hdata)
  | applied report =>
    have hdata : (dataJson "apply" report.members).depth ≤ 5 := by
      refine depth_dataJson_le ?_
      simpa [ApplyReport.members, depth, nat] using depth_regions_le report.regions
    exact depth_obj_le (by simpa [depth] using hdata)
  | failed fault =>
    have herror := Nat.le_trans (depth_faultJson_le fault) (Nat.le_add_right 3 2)
    exact depth_obj_le (by simpa [depth] using herror)

/-! ### What is printed -/

/-- The output is the value over several lines, and whoever reads it comes back to the value. -/
structure Prints (output : String) (value : Json) : Prop where
  /-- A line end stands behind the value, and nothing else stands there. -/
  eq : output = value.pretty ++ "\n"
  /-- The whole of the output reads as the value, whose integers have 64 bits. -/
  reads : value.Plain → whole (Json.value nestingLimit) output = .ok value

/-- **What a result prints is its envelope.** -/
theorem Result.prints (result : Result) : Prints result.outcome.output result.toJson where
  eq := rfl
  reads hplain := whole_pretty hplain (Nat.le_trans (depth_toJson_le result) (by decide))

end CommandLine

end LineCut
