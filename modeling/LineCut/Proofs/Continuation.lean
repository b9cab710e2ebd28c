/-
Looking for a region in a text that goes on.

Where a text ends plays no part in what is found in it.  A rule that ends a region waits for a line,
or for delimiters to balance, and does not take the end of the text for either; an end that is moved
must not be moved beyond the last line, but it need not stop there.  So whatever is found is found
again when more lines come behind, and a region that is looked for once has the very same range.  A
region that is looked for everywhere is looked for again from where its last range stops, and there
the shorter text had no opening line any more.  All that comes now is opened by the new lines, and
ends among them.

One round is carried over first, and from it the whole search, as an equation: `scanFrom_append`
says that the scan of the longer text is the ranges of the shorter one, and behind them what a scan
finds that starts where they stop.  It holds also if that scan fails, so only a region that the new
lines open can make it fail.
-/
import LineCut.Proofs.Coverage

namespace LineCut

variable {lines : List String} {region : Region} {cursor : Nat}

/-! ### One round -/

/-- A line that is found is the first one also if more lines come behind. -/
theorem findFrom_append {test : String → Bool} {start i : Nat} (extra : List String)
    (h : findFrom test lines start = some i) : findFrom test (lines ++ extra) start = some i := by
  have hlt := (bounds_of_findFrom h).2
  rw [findFrom_eq_some_iff] at h ⊢
  obtain ⟨hstart, ⟨line, hline, hpasses⟩, hearlier⟩ := h
  refine ⟨hstart, ⟨line, ?_, hpasses⟩, ?_⟩
  · rw [List.getElem?_append_left hlt]
    exact hline
  · intro j hle hj other hother
    rw [List.getElem?_append_left (Nat.lt_trans hj hlt)] at hother
    exact hearlier j hle hj other hother

/-- Delimiters that balance do so before the lines that come behind are looked at. -/
theorem Ending.balancedAt_append {opening closing : String} {index e : Nat} {depth : Int}
    {opened : Bool} (extra : List String)
    (h : balancedAt opening closing index depth opened lines = some e) :
    balancedAt opening closing index depth opened (lines ++ extra) = some e := by
  induction lines generalizing index depth opened with
  | nil => simp [balancedAt] at h
  | cons line rest ih =>
      rw [List.cons_append]
      unfold balancedAt at h ⊢
      simp only at h ⊢
      split
      · rename_i hbalanced
        rw [if_pos hbalanced] at h
        exact h
      · rename_i hbalanced
        rw [if_neg hbalanced] at h
        exact ih h

/-- **No rule takes the end of the text for the end of a region.** -/
theorem Ending.find_append {ending : Ending} {start e : Nat} (extra : List String)
    (h : ending.find lines start = some e) : ending.find (lines ++ extra) start = some e := by
  cases ending with
  | before test offset => exact findFrom_append extra h
  | sibling openings exclude => exact findFrom_append extra h
  | balanced opening closing =>
      show balancedAt opening closing start 0 false ((lines ++ extra).drop start) = some e
      rw [List.drop_append]
      exact balancedAt_append _ h
  | singleLine => exact h

/-- An end that may be moved so far may be moved so far in a longer text. -/
theorem Region.shiftEnd_of_le {start stop total longer e : Nat} (hle : total ≤ longer)
    (h : region.shiftEnd start stop total = .ok e) : region.shiftEnd start stop longer = .ok e := by
  simp only [shiftEnd] at h ⊢
  by_cases hout : (stop : Int) + region.ending.offset ≤ start ∨
      (total : Int) < (stop : Int) + region.ending.offset
  · rw [if_pos hout] at h
    cases h
  · rw [if_neg hout] at h
    rw [if_neg (by omega)]
    exact h

theorem Region.rangeStart_append {opening : Nat} (extra : List String)
    (h : opening < lines.length) :
    region.rangeStart (lines ++ extra) cursor opening = region.rangeStart lines cursor opening := by
  have hline : (lines ++ extra)[opening - 1]? = lines[opening - 1]? :=
    List.getElem?_append_left (by omega)
  rw [rangeStart, rangeStart, hline]

/-- **A round goes the same way if more lines come behind.** -/
theorem Round.append {range : LineRange} {opening : Nat} (extra : List String)
    (h : Round lines region cursor range opening) :
    Round (lines ++ extra) region cursor range opening := by
  obtain ⟨found, hfound, hstop⟩ := h.ended
  refine ⟨findFrom_append extra h.opened, ⟨found, Ending.find_append extra hfound, ?_⟩, ?_, h.named⟩
  · refine Region.shiftEnd_of_le ?_ hstop
    rw [List.length_append]
    exact Nat.le_add_right _ _
  · rw [Region.rangeStart_append extra (bounds_of_findFrom h.opened).2]
    exact h.started

/-- What a scan does in a round: it is done, or goes on from where the range stops. -/
theorem Round.scanFrom_eq {range : LineRange} {opening : Nat}
    (h : Round lines region cursor range opening) :
    scanFrom lines region cursor =
      if region.multiplicity = .first then .ok [range]
      else (scanFrom lines region range.stop).map (range :: ·) := by
  obtain ⟨found, hfound, hstop⟩ := h.ended
  have hrange : range = ⟨region.name, region.rangeStart lines cursor opening, range.stop⟩ := by
    rw [← h.named, ← h.started]
  rw [scanFrom]
  split
  · rename_i hnone
    rw [h.opened] at hnone
    cases hnone
  · rename_i start hstart
    obtain rfl : opening = start := Option.some.inj (h.opened.symm.trans hstart)
    rw [hfound]
    dsimp only
    split
    · rename_i fault hfault
      rw [hstop] at hfault
      cases hfault
    · rename_i stop hok
      obtain rfl : range.stop = stop := Except.ok.inj (hstop.symm.trans hok)
      rw [← hrange]
      by_cases hfirst : region.multiplicity = .first
      · rw [if_pos hfirst, if_pos hfirst]
      · rw [if_neg hfirst, if_neg hfirst]
        cases scanFrom lines region range.stop with
        | error fault => rfl
        | ok rest => rfl

namespace Search

variable {ranges : List LineRange}

/-! ### The whole search -/

/-- **A region that is looked for once is found where it was.** -/
theorem scanFrom_append_first (extra : List String) (h : Search lines region cursor ranges)
    (hfirst : region.multiplicity = .first) (hne : ranges ≠ []) :
    scanFrom (lines ++ extra) region cursor = .ok ranges := by
  cases h with
  | nowhere => exact absurd rfl hne
  | once hround _ => rw [(hround.append extra).scanFrom_eq, if_pos hfirst]
  | again _ hall _ =>
      rw [hfirst] at hall
      cases hall

/-- **The scan of a longer text goes on from where the scan of the shorter one stopped.**  The
induction is on the rounds, each of which goes the same way. -/
theorem scanFrom_append (extra : List String) (h : Search lines region cursor ranges)
    (hall : region.multiplicity = .all) :
    scanFrom (lines ++ extra) region cursor =
      (scanFrom (lines ++ extra) region (lastStop cursor ranges)).map (ranges ++ ·) := by
  induction h with
  | @nowhere cursor _ =>
      rw [lastStop_nil]
      cases scanFrom (lines ++ extra) region cursor with
      | error fault => rfl
      | ok rest => rfl
  | once _ hfirst =>
      rw [hall] at hfirst
      cases hfirst
  | @again cursor range opening rest hround _ _ ih =>
      have hmany : ¬ region.multiplicity = .first := by simp [hall]
      rw [(hround.append extra).scanFrom_eq, if_neg hmany, ih, lastStop_cons]
      cases scanFrom (lines ++ extra) region (lastStop range.stop rest) with
      | error fault => rfl
      | ok more => rfl

/-- A search that is over has no opening line left. -/
theorem findFrom_lastStop (h : Search lines region cursor ranges)
    (hall : region.multiplicity = .all) :
    findFrom region.opens lines (lastStop cursor ranges) = none := by
  induction h with
  | nowhere hnone => exact hnone
  | once _ hfirst =>
      rw [hall] at hfirst
      cases hfirst
  | again _ _ _ ih =>
      rw [lastStop_cons]
      exact ih

/-- **What is found where no line was left ends among the new ones.**  Behind the first of these
ranges no old line is left at all. -/
theorem length_lt_stop {extra : List String} (h : Search (lines ++ extra) region cursor ranges)
    (hnone : findFrom region.opens lines cursor = none) :
    ∀ range ∈ ranges, lines.length < range.stop := by
  -- The opening line of a round is a new one, and it is in the range.
  have hround : ∀ {cursor range opening}, Round (lines ++ extra) region cursor range opening →
      findFrom region.opens lines cursor = none → lines.length < range.stop := by
    intro cursor range opening hround hnone
    obtain ⟨hle, ⟨line, hline, hopens⟩, -⟩ := findFrom_eq_some_iff.mp hround.opened
    have hnew : lines.length ≤ opening := by
      by_contra hold
      rw [List.getElem?_append_left (Nat.lt_of_not_le hold)] at hline
      rw [eq_false_of_findFrom_eq_none hnone hle hline] at hopens
      cases hopens
    exact Nat.lt_of_le_of_lt hnew hround.holds_opening.2
  induction h with
  | nowhere => simp
  | once hfound _ => simpa using hround hfound hnone
  | @again cursor range opening rest hfound _ _ ih =>
      have hstop := hround hfound hnone
      have hbeyond : findFrom region.opens lines range.stop = none := by
        rw [findFrom_eq_none_iff, List.drop_of_length_le (Nat.le_of_lt hstop)]
        simp
      intro other hmem
      rcases List.mem_cons.mp hmem with rfl | hlater
      · exact hstop
      · exact ih hbeyond other hlater

end Search

/--
**The end of a text ends no region.**  Let a scan find ranges in some lines, and let more lines come
behind.  If the region is looked for once, the same range is found.  If it is looked for everywhere
and a scan of the longer text succeeds, it finds the same ranges first, and every one behind them
ends beyond the lines that were there before.
-/
theorem scanRegion_append {lines : List String} {region : Region} {ranges : List LineRange}
    (h : scanRegion lines region = .ok ranges) (extra : List String) :
    (region.multiplicity = .first → scanRegion (lines ++ extra) region = .ok ranges) ∧
    (region.multiplicity = .all → ∀ longer, scanRegion (lines ++ extra) region = .ok longer →
      ∃ further, longer = ranges ++ further ∧ ∀ range ∈ further, lines.length < range.stop) := by
  obtain ⟨hsearch, hne⟩ := search_of_scanRegion h
  refine ⟨?_, ?_⟩
  · intro hfirst
    exact scanRegion_eq_ok_iff.mpr ⟨hsearch.scanFrom_append_first extra hfirst hne, hne⟩
  · intro hall longer hlonger
    have hscan := (scanRegion_eq_ok_iff.mp hlonger).1
    rw [hsearch.scanFrom_append extra hall] at hscan
    cases hfurther : scanFrom (lines ++ extra) region (lastStop 0 ranges) with
    | error fault =>
        rw [hfurther] at hscan
        cases hscan
    | ok further =>
        rw [hfurther] at hscan
        obtain rfl : ranges ++ further = longer := Except.ok.inj hscan
        exact ⟨further, rfl,
          (search_of_scanFrom hfurther).length_lt_stop (hsearch.findFrom_lastStop hall)⟩

/-- Two blocks, the second of which comes behind the end of the shorter text while the comment above
it was the last line of that. -/
theorem scanRegion_append_blocks :
    let lines := ["fn a begin", "end // a", "// about b"]
    let extra := ["fn b begin", "end", "kept"]
    let block : Region := { mention "fn " .delete with
      ending := .balanced "begin" "end", companion := some (.startsWith "//")
      multiplicity := .all }
    let once : Region := { block with multiplicity := .first }
    let first : LineRange := ⟨"fn ", 0, 2⟩
    let second : LineRange := ⟨"fn ", 2, 5⟩
    scanRegion lines block = .ok [first] ∧ scanRegion lines once = .ok [first] ∧
      scanRegion (lines ++ extra) once = .ok [first] ∧
      scanRegion (lines ++ extra) block = .ok [first, second] ∧
      ∃ further, [first, second] = [first] ++ further ∧
        ∀ range ∈ further, lines.length < range.stop := by
  intro lines extra block once first second
  have hblock : scanRegion lines block = .ok [first] := by decide +kernel
  have honce : scanRegion lines once = .ok [first] := by decide +kernel
  have hlonger : scanRegion (lines ++ extra) block = .ok [first, second] := by decide +kernel
  exact ⟨hblock, honce, (scanRegion_append honce extra).1 rfl, hlonger,
    (scanRegion_append hblock extra).2 rfl _ hlonger⟩

end LineCut
