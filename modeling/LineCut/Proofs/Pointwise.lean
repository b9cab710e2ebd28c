/-
Editing, line by line.

The lines that come out of an edit can be given without a cursor and without an order: go through
the indices of the text, and put for each of them what its edit says.  Where a range starts that is
what its edit puts in, elsewhere in a range nothing, and outside all ranges the line itself.  This
can be run, and the walk over sorted ranges gives the same list.

Counting goes the same way.  What is reported as removed is a sum of lengths, taken range by range,
and what is meant is a number of lines.  The two agree because no line is in two ranges; the number
of lines that come out follows from the walk, which for each range swaps the lines in it for those
that are put in.
-/
import Mathlib
import LineCut.Proofs.Editing

namespace LineCut

namespace Edit

variable {edits : List Edit} {lines : List String} {total : Nat}

/-- What comes of line `i`: what the edit puts in that starts there, nothing in the rest of a range,
and the line itself outside. -/
def lineAfter (edits : List Edit) (lines : List String) (i : Nat) : List String :=
  match edits.find? fun edit => edit.range.start == i with
  | some edit => edit.action.insertion
  | none => if ∃ edit ∈ edits, edit.range.Holds i then [] else lines[i]?.toList

/-- The lines among the first `total` that some edit is about. -/
def covered (total : Nat) (edits : List Edit) : Finset Nat :=
  (Finset.range total).filter fun i => ∃ edit ∈ edits, edit.range.Holds i

/-! ### What comes of a line -/

/-- What compatible edits make of a line can be looked up. -/
theorem Compatible.imageAt_eq_lineAfter (h : Compatible total edits) {i : Nat} {line : String}
    (hline : lines[i]? = some line) : imageAt edits i line = lineAfter edits lines i := by
  unfold imageAt lineAfter
  cases hfind : edits.find? fun edit => edit.range.start == i with
  | some edit =>
      obtain rfl : edit.range.start = i := by simpa using List.find?_some hfind
      have hmem := List.mem_of_find?_eq_some hfind
      rw [if_pos ⟨edit, hmem, (h.within edit hmem).holds_start⟩]
      exact h.insertedAt_start hmem
  | none =>
      have hstart : ∀ edit ∈ edits, edit.range.start ≠ i := by
        simpa using List.find?_eq_none.mp hfind
      simp only [insertedAt_eq_nil hstart, hline, Option.toList_some]

/-- **What edits make of the lines is what comes of each index, one behind another.** -/
theorem Compatible.images_eq_lineAfter (h : Compatible lines.length edits) :
    images edits 0 lines = (List.range lines.length).flatMap (lineAfter edits lines) := by
  have hindices : List.range lines.length = (lines.zipIdx 0).map Prod.snd := by
    rw [List.zipIdx_map_snd, List.range_eq_range']
  rw [hindices, List.flatMap_map]
  refine List.flatMap_congr ?_
  rintro ⟨line, i⟩ hmem
  exact h.imageAt_eq_lineAfter (List.mk_mem_zipIdx_iff_getElem?.mp hmem)

/-! ### How many lines -/

/-- The lines of one edit's range, and then those of the others. -/
theorem covered_cons {edit : Edit} {rest : List Edit} (hwithin : edit.range.Within total) :
    covered total (edit :: rest) =
      Finset.Ico edit.range.start edit.range.stop ∪ covered total rest := by
  ext i
  simp only [covered, Finset.mem_union, Finset.mem_filter, Finset.mem_range,
    List.exists_mem_cons_iff, Finset.mem_Ico]
  constructor
  · rintro ⟨hlt, hown | hother⟩
    · exact Or.inl hown
    · exact Or.inr ⟨hlt, hother⟩
  · rintro (hown | ⟨hlt, hother⟩)
    · exact ⟨Nat.lt_of_lt_of_le hown.2 hwithin.2, Or.inl hown⟩
    · exact ⟨hlt, Or.inr hother⟩

/-- **The lengths of ranges that are apart add up to the number of lines in them.** -/
theorem Compatible.card_covered (h : Compatible total edits) :
    (covered total edits).card = LineRange.totalLength (edits.map (·.range)) := by
  induction edits with
  | nil => simp [covered, LineRange.totalLength]
  | cons edit rest ih =>
      obtain ⟨hapart, hrest⟩ := List.pairwise_cons.mp h.apart
      have hdisjoint : Disjoint (Finset.Ico edit.range.start edit.range.stop)
          (covered total rest) := by
        rw [Finset.disjoint_left]
        intro i hown hother
        obtain ⟨-, other, hmem, hholds⟩ := Finset.mem_filter.mp hother
        exact hapart other hmem i ⟨Finset.mem_Ico.mp hown, hholds⟩
      rw [covered_cons (h.within edit (by simp)), Finset.card_union_of_disjoint hdisjoint,
        Nat.card_Ico, ih ⟨fun e he => h.within e (by simp [he]), hrest⟩]
      rfl

/-- **The walk takes out as many lines as the ranges are long, and puts in what their edits put
in.** -/
theorem length_splice {cursor : Nat}
    (hwithin : ∀ edit ∈ edits, edit.range.Within (cursor + lines.length))
    (hbefore : edits.Pairwise fun e f => e.range.Before f.range)
    (hcursor : ∀ edit ∈ edits, cursor ≤ edit.range.start) :
    (splice cursor lines edits).length + (stats edits).removed =
      lines.length + (stats edits).inserted := by
  induction edits generalizing cursor lines with
  | nil => rfl
  | cons edit rest ih =>
      obtain ⟨hlater, hrest⟩ := List.pairwise_cons.mp hbefore
      have hedit := hwithin edit (by simp)
      obtain ⟨front, middle, back, rfl, hfront, hmiddle, hsplice⟩ :=
        splice_cons_eq (hcursor edit (by simp)) hedit
      have htotal : edit.range.stop + back.length
          = cursor + (front ++ (middle ++ back)).length := by
        have := hedit.1
        simp only [List.length_append, LineRange.length] at hmiddle ⊢
        omega
      have hback := ih (fun e he => htotal ▸ hwithin e (by simp [he])) hrest
        (fun e he => hlater e he)
      rw [hsplice]
      simp only [stats, List.map_cons, LineRange.totalLength, List.flatMap_cons,
        List.length_append] at hback ⊢
      omega

end Edit

/-- As many lines come out as went in, less those removed and with those put in. -/
theorem length_of_applyEdits {lines out : List String} {edits : List Edit} {stats : EditStats}
    (h : applyEdits lines edits = .ok (out, stats)) :
    out.length + stats.removed = lines.length + stats.inserted := by
  unfold applyEdits at h
  split at h
  · cases h
  · next sorted hordered =>
      obtain ⟨hcompatible, hperm, hbefore⟩ := Edit.compatible_of_ordered hordered
      cases h
      refine Edit.length_splice ?_ hbefore (fun edit _ => Nat.zero_le _)
      rw [Nat.zero_add]
      exact (hcompatible.perm hperm).within

/--
**Editing is pointwise.**  What comes out is, for one index after another, what the edit puts in
that starts there, nothing if the index is elsewhere in a range, and else the line.  As many lines
are reported removed as indices are in a range, as many put in as the edits put in together, and
these numbers say how many lines come out.
-/
theorem applyEdits_pointwise {lines out : List String} {edits : List Edit} {stats : EditStats}
    (h : applyEdits lines edits = .ok (out, stats)) :
    out = (List.range lines.length).flatMap (Edit.lineAfter edits lines) ∧
      stats.removed = (Edit.covered lines.length edits).card ∧
      stats.inserted = (edits.map Edit.inserted).sum ∧
      out.length + stats.removed = lines.length + stats.inserted := by
  obtain ⟨hcompatible, hresult⟩ := applyEdits_eq_ok_iff.mp h
  obtain ⟨hout, hstats⟩ := Prod.mk.inj hresult
  refine ⟨?_, ?_, ?_, length_of_applyEdits h⟩
  · rw [hout, hcompatible.images_eq_lineAfter]
  · rw [hstats, hcompatible.card_covered]
    rfl
  · rw [hstats, Edit.stats, List.length_flatMap]
    rfl

/-- Three edits, given out of order, the first two of which touch; one reaches the last line. -/
theorem applyEdits_pointwise_touching :
    let lines := ["a", "b", "c", "d", "e"]
    let edits : List Edit := [⟨⟨"end", 4, 5⟩, .delete⟩, ⟨⟨"b", 1, 3⟩, .replace ["B", "C", "D"]⟩,
      ⟨⟨"a", 0, 1⟩, .replace ["A"]⟩]
    applyEdits lines edits = .ok (["A", "B", "C", "D", "d"], ⟨4, 4⟩) ∧
      ["A", "B", "C", "D", "d"] = (List.range 5).flatMap (Edit.lineAfter edits lines) ∧
      (Edit.covered 5 edits).card = 4 := by
  intro lines edits
  have happly : applyEdits lines edits = .ok (["A", "B", "C", "D", "d"], ⟨4, 4⟩) := by
    cbv
  obtain ⟨hout, hremoved, -, -⟩ := applyEdits_pointwise happly
  exact ⟨happly, hout, hremoved.symm⟩

end LineCut
