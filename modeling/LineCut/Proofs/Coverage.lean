/-
A scan misses nothing.

The cursor of a scan jumps: from the line that opens a region to where the region ends, and that is
decided by four different rules and an offset that may move the end either way.  What could go wrong
is that it jumps too far, or not at all.  It does neither.  Every turn of the loop moves the cursor
behind the line it has found, whatever the rule says, so there are no more turns than lines; and the
cursor stands where the last range stops, so a line it has passed is in that range or was looked at
and does not open the region.

What is left out by a scan is therefore either in front of a range and opens nothing, or behind the
last range of a region that is looked for only once.  For a region that is looked for everywhere,
every opening line is in a range, and a plan that deletes all its ranges leaves none of them for the
last look to find.
-/
import LineCut.Proofs.Removal

namespace LineCut

variable {lines : List String} {region : Region} {cursor : Nat}

/-! ### The cursor -/

/-- Where the last of the ranges stops, and `cursor` if there are none. -/
def lastStop (cursor : Nat) (ranges : List LineRange) : Nat :=
  (ranges.getLast?.map (·.stop)).getD cursor

@[simp] theorem lastStop_nil (cursor : Nat) : lastStop cursor [] = cursor := rfl

@[simp] theorem lastStop_cons (cursor : Nat) (range : LineRange) (rest : List LineRange) :
    lastStop cursor (range :: rest) = lastStop range.stop rest := by
  rw [lastStop, lastStop, List.getLast?_cons]
  cases rest.getLast? with
  | none => rfl
  | some last => rfl

/-- One turn of the loop that is not its last: a range is found, and the region is looked for again
from where it stops. -/
def Turn (lines : List String) (region : Region) (cursor next : Nat) : Prop :=
  region.multiplicity = .all ∧
    ∃ range opening, Round lines region cursor range opening ∧ range.stop = next

/-- **A turn moves the cursor forwards**, and not beyond the last line. -/
theorem Turn.bounds {next : Nat} (h : Turn lines region cursor next) :
    cursor < next ∧ next ≤ lines.length := by
  obtain ⟨-, range, opening, hround, rfl⟩ := h
  have hstart := hround.cursor_le_start
  have hwithin := hround.within
  exact ⟨Nat.lt_of_le_of_lt hstart hwithin.1, hwithin.2⟩

/-- **The loop ends**: there are no more turns than lines behind the cursor. -/
theorem length_turns_le {turns : List Nat} (h : (cursor :: turns).IsChain (Turn lines region)) :
    turns.length ≤ lines.length - cursor := by
  induction turns generalizing cursor with
  | nil => exact Nat.zero_le _
  | cons next rest ih =>
      obtain ⟨hturn, hrest⟩ := List.isChain_cons_cons.mp h
      have hbounds := hturn.bounds
      have hlater := ih hrest
      rw [List.length_cons]
      omega

/-! ### What a search passes -/

/-- No line between the cursor and the opening line opens the region. -/
theorem Round.passed {range : LineRange} {opening : Nat}
    (h : Round lines region cursor range opening) {i : Nat} {line : String} (hle : cursor ≤ i)
    (hlt : i < opening) (hline : lines[i]? = some line) : region.opens line = false :=
  (findFrom_eq_some_iff.mp h.opened).2.2 i hle hlt line hline

namespace Search

variable {ranges : List LineRange}

/-- **Every range comes of a round**, whose cursor is where the range before it stops. -/
theorem round_of_append (h : Search lines region cursor ranges) {before after : List LineRange}
    {range : LineRange} (hsplit : ranges = before ++ range :: after) :
    ∃ opening, Round lines region (lastStop cursor before) range opening := by
  induction h generalizing before with
  | nowhere => simp at hsplit
  | once hround =>
      cases before with
      | nil =>
          obtain ⟨rfl, -⟩ := List.cons.inj hsplit
          exact ⟨_, hround⟩
      | cons first rest => simp at hsplit
  | again hround _ _ ih =>
      cases before with
      | nil =>
          obtain ⟨rfl, -⟩ := List.cons.inj hsplit
          exact ⟨_, hround⟩
      | cons first rest =>
          obtain ⟨rfl, hrest⟩ := List.cons.inj hsplit
          rw [lastStop_cons]
          exact ih hrest

/-- An opening line behind the cursor is in a range, or behind the only range that there is. -/
theorem holds_or_behind (h : Search lines region cursor ranges) {i : Nat} {line : String}
    (hle : cursor ≤ i) (hline : lines[i]? = some line) (hopens : region.opens line = true) :
    (∃ range ∈ ranges, range.Holds i) ∨
      (region.multiplicity = .first ∧ lastStop cursor ranges ≤ i) := by
  -- A round leaves three places for the line: before its opening line, in its range, behind it.
  have hround : ∀ {cursor range opening}, Round lines region cursor range opening → cursor ≤ i →
      range.Holds i ∨ range.stop ≤ i := by
    intro cursor range opening hround hle
    have hopening : opening ≤ i := by
      by_contra hlt
      rw [hround.passed hle (Nat.lt_of_not_le hlt) hline] at hopens
      cases hopens
    have hstart := hround.holds_opening.1
    by_cases hstop : range.stop ≤ i
    · exact Or.inr hstop
    · exact Or.inl ⟨Nat.le_trans hstart hopening, Nat.lt_of_not_le hstop⟩
  induction h with
  | @nowhere cursor hnone =>
      rw [eq_false_of_findFrom_eq_none hnone hle hline] at hopens
      cases hopens
  | once hfound hfirst =>
      rcases hround hfound hle with hheld | hbehind
      · exact Or.inl ⟨_, List.mem_singleton_self _, hheld⟩
      · exact Or.inr ⟨hfirst, by simpa using hbehind⟩
  | again hfound hall _ ih =>
      rcases hround hfound hle with hheld | hbehind
      · exact Or.inl ⟨_, List.mem_cons_self, hheld⟩
      · rcases ih hbehind with ⟨range, hmem, hheld⟩ | ⟨hfirst, -⟩
        · exact Or.inl ⟨range, List.mem_cons_of_mem _ hmem, hheld⟩
        · rw [hall] at hfirst
          cases hfirst

/-- **Every opening line is in a range**, if the region is looked for everywhere. -/
theorem exists_holds (h : Search lines region 0 ranges) (hall : region.multiplicity = .all)
    {i : Nat} {line : String} (hline : lines[i]? = some line)
    (hopens : region.opens line = true) : ∃ range ∈ ranges, range.Holds i := by
  rcases h.holds_or_behind (Nat.zero_le i) hline hopens with hheld | ⟨hfirst, -⟩
  · exact hheld
  · rw [hall] at hfirst
    cases hfirst

/-- No range goes beyond where the last one stops. -/
theorem stop_le_lastStop (h : Search lines region cursor ranges) :
    ∀ range ∈ ranges, range.stop ≤ lastStop cursor ranges := by
  induction h with
  | nowhere => simp
  | once => simp
  | @again cursor range opening rest hround _ hrest ih =>
      intro r hmem
      rw [lastStop_cons]
      rcases List.mem_cons.mp hmem with rfl | hlater
      · cases rest with
        | nil => exact Nat.le_refl _
        | cons next later =>
            have hnext := ih next List.mem_cons_self
            have hstart := hrest.cursor_le_start next List.mem_cons_self
            have hwithin := (hrest.within next List.mem_cons_self).1
            omega
      · exact ih r hlater

end Search

/-- A scan of one region succeeds with what its rounds have found, if that is something. -/
theorem scanRegion_eq_ok_iff {ranges : List LineRange} :
    scanRegion lines region = .ok ranges ↔ scanFrom lines region 0 = .ok ranges ∧ ranges ≠ [] := by
  unfold scanRegion
  cases scanFrom lines region 0 with
  | error fault => simp
  | ok found =>
      cases found with
      | nil =>
          simp only [reduceCtorEq, Except.ok.injEq, false_iff, not_and, not_not]
          exact Eq.symm
      | cons range rest =>
          simp only [Except.ok.injEq, iff_self_and]
          intro heq
          rw [← heq]
          exact List.cons_ne_nil _ _

/-- A successful scan of one region is a search that has found something. -/
theorem search_of_scanRegion {ranges : List LineRange} (h : scanRegion lines region = .ok ranges) :
    Search lines region 0 ranges ∧ ranges ≠ [] := by
  obtain ⟨hscan, hne⟩ := scanRegion_eq_ok_iff.mp h
  exact ⟨search_of_scanFrom hscan, hne⟩

/-! ### Missing regions, by the code of the fault -/

/-- No other fault has this code. -/
theorem Fault.code_eq_startNotFound_iff {fault : Fault} :
    fault.code = "region.start_not_found" ↔ ∃ name total, fault = .startNotFound name total := by
  constructor
  · intro h
    cases fault with
    | startNotFound name total => exact ⟨name, total, rfl⟩
    | _ => simp [code, family, kind, Family.name] at h
  · rintro ⟨name, total, rfl⟩
    rfl

/-- A region that is said to be missing is missing, whatever else the fault says. -/
theorem scanRegion_code_iff :
    (∃ fault, scanRegion lines region = .error fault ∧ fault.code = "region.start_not_found") ↔
      ∀ line ∈ lines, region.opens line = false := by
  rw [← scanRegion_eq_startNotFound_iff]
  constructor
  · rintro ⟨fault, hfault, hcode⟩
    obtain ⟨name, total, rfl⟩ := Fault.code_eq_startNotFound_iff.mp hcode
    unfold scanRegion at hfault ⊢
    cases hscan : scanFrom lines region 0 with
    | error other =>
        rw [hscan] at hfault
        cases hfault
        exact absurd hscan (scanFrom_ne_startNotFound _ _)
    | ok ranges =>
        rw [hscan] at hfault
        cases ranges with
        | nil => rfl
        | cons range rest => cases hfault
  · intro h
    exact ⟨_, h, rfl⟩

/-! ### Plans that delete every occurrence -/

/-- **Such a plan leaves nothing for the last look to find**: what stays was outside all ranges, and
outside all ranges nothing opens one of its regions. -/
theorem residual_of_all {regions : List Region} {scans : List RegionScan}
    (hregions : ∀ region ∈ regions, region.action = .delete ∧ region.multiplicity = .all)
    (hscan : scanPlan lines regions = .ok scans) :
    residual (revisedLines lines regions scans) regions scans = none := by
  rw [residual_eq_none_iff]
  rintro p hp - - ⟨line, hline, hopens⟩
  have hsearch := (planSearch_of_scanPlan hscan).search_of_mem_zip p hp
  have hmem := List.of_mem_zip hp
  rw [mem_revisedLines_iff hscan] at hline
  rcases hline with ⟨i, hi, hout⟩ | ⟨other, hother, -, hin⟩
  · obtain ⟨range, hrange, hheld⟩ := hsearch.exists_holds (hregions _ hmem.1).2 hi hopens
    exact hout range (List.mem_flatMap.mpr ⟨p.2, hmem.2, hrange⟩) hheld
  · obtain ⟨put, hreplace, -⟩ := Action.mem_insertion_iff.mp hin
    rw [(hregions other hother).1] at hreplace
    cases hreplace

/--
**A scan misses nothing.**  Looking for a region ends, after no more turns than there are lines.  If
ranges are found there is at least one, they come one behind another, each holds lines and only such
as are there, and no line before the first or between two of them opens the region.  If the region
is looked for everywhere no line behind the last one opens it either, so that every opening line is
in a range.  The region is said to be missing exactly if no line opens it.

So of a plan that deletes every occurrence of all its regions nothing is left over, and it is
carried out whenever its scan succeeds.
-/
theorem scanRegion_misses_nothing (lines : List String) :
    (∀ region : Region,
      (∀ turns, (0 :: turns).IsChain (Turn lines region) → turns.length ≤ lines.length) ∧
      (∀ ranges, scanRegion lines region = .ok ranges →
        ranges ≠ [] ∧
        ranges.Pairwise (fun r s => r.stop ≤ s.start) ∧
        (∀ range ∈ ranges, range.start < range.stop ∧ range.stop ≤ lines.length) ∧
        (∀ before range after, ranges = before ++ range :: after →
          ∀ i line, lastStop 0 before ≤ i → i < range.start → lines[i]? = some line →
            region.opens line = false) ∧
        (region.multiplicity = .all →
          (∀ i line, lastStop 0 ranges ≤ i → lines[i]? = some line →
            region.opens line = false) ∧
          ∀ i line, lines[i]? = some line → region.opens line = true →
            ∃ range ∈ ranges, range.Holds i)) ∧
      ((∃ fault, scanRegion lines region = .error fault ∧
          fault.code = "region.start_not_found") ↔
        ∀ line ∈ lines, region.opens line = false)) ∧
    ∀ (regions : List Region) (ending : Terminator) (trailing : Bool) (scans : List RegionScan),
      (∀ region ∈ regions, region.action = .delete ∧ region.multiplicity = .all) →
      scanPlan lines regions = .ok scans →
      ∃ revision, Document.revise ⟨lines, ending, trailing⟩ regions = .ok revision := by
  refine ⟨fun region => ⟨?_, ?_, scanRegion_code_iff⟩, ?_⟩
  · intro turns hturns
    simpa using length_turns_le hturns
  · intro ranges hscan
    obtain ⟨hsearch, hne⟩ := search_of_scanRegion hscan
    refine ⟨hne, hsearch.pairwise_before, hsearch.within, ?_, fun hall => ⟨?_, ?_⟩⟩
    · intro before range after hsplit i line hle hlt hline
      obtain ⟨opening, hround⟩ := hsearch.round_of_append hsplit
      exact hround.passed hle (Nat.lt_of_lt_of_le hlt hround.holds_opening.1) hline
    · intro i line hle hline
      by_contra hopens
      obtain ⟨range, hmem, hheld⟩ := hsearch.exists_holds hall hline (by simpa using hopens)
      exact absurd hheld.2 (Nat.not_lt.mpr (Nat.le_trans (hsearch.stop_le_lastStop range hmem) hle))
    · exact fun i line hline hopens => hsearch.exists_holds hall hline hopens
  · intro regions ending trailing scans hregions hscan
    exact ⟨_, revise_eq_ok hscan (residual_of_all hregions hscan)⟩

/-- Three uses, of which the first has its comment above it and the second touches the first. -/
theorem scanRegion_misses_nothing_uses :
    let lines := ["// wire", "use x", "use y", "kept", "use z"]
    let uses : Region := { mention "use " .delete with
      companion := some (.startsWith "//"), multiplicity := .all }
    let ranges := [⟨"use ", 0, 2⟩, ⟨"use ", 2, 3⟩, ⟨"use ", 4, 5⟩]
    scanRegion lines uses = .ok ranges ∧
      (∀ i line, lines[i]? = some line → uses.opens line = true →
        ∃ range ∈ ranges, range.Holds i) ∧
      ∃ revision, Document.revise ⟨lines, .lf, true⟩ [uses] = .ok revision := by
  intro lines uses ranges
  have hscan : scanRegion lines uses = .ok ranges := by decide +kernel
  have hplan : scanPlan lines [uses] = .ok [⟨"use ", ranges⟩] := by decide +kernel
  have hall : ∀ region ∈ [uses], region.action = .delete ∧ region.multiplicity = .all := by
    simp [uses, mention]
  have hnothing := scanRegion_misses_nothing lines
  exact ⟨hscan, ((hnothing.1 uses).2.1 ranges hscan).2.2.2.2 rfl |>.2,
    hnothing.2 [uses] .lf true _ hall hplan⟩

end LineCut
