/-
What the editor lets pass.

The check that is made before anything is edited looks at less than it promises.  Of all pairs of
ranges it holds only neighbours in the sorted list against each other.  A range that swallows
several later ones is caught at the first of them, and if every range stops before its neighbour
starts then so do all pairs, since none is empty.  Nothing gets through that should not, and nothing
is held back that need not be: `compatible_of_ordered` and `ordered_of_compatible` say so.

What they leave open is which fault is reported.  The two edits that are named stand side by side
in the sorted list, but that does not tell where they stood in the list as it was given, and they
may even be equal.  That they are two edits and not one is seen by taking the first out of the list:
the other one is still there.
-/
import Mathlib.Data.List.Perm.Basic
import LineCut.Proofs.Editing

namespace LineCut

namespace Edit

variable {edits sorted : List Edit} {e f : Edit} {total : Nat}

/-! ### Two different edits -/

/-- The two edits stand at different places of the list.  They may be equal for all that. -/
def AtTwoPlaces (edits : List Edit) (e f : Edit) : Prop :=
  ∃ i j : Nat, i ≠ j ∧ edits[i]? = some e ∧ edits[j]? = some f

/-- Two edits that stand at the head of a permutation have been at two places before it. -/
theorem atTwoPlaces_of_perm {rest : List Edit} (h : edits.Perm (e :: f :: rest)) :
    AtTwoPlaces edits e f := by
  have hmem : e ∈ edits := h.mem_iff.mpr (by simp)
  obtain ⟨i, hi, rfl⟩ := List.getElem_of_mem hmem
  have hothers : (edits.eraseIdx i).Perm (f :: rest) :=
    ((List.getElem_cons_eraseIdx_perm hi).trans h).cons_inv
  have hother : f ∈ edits.eraseIdx i := hothers.mem_iff.mpr (by simp)
  obtain ⟨j, hne, hj⟩ := List.mem_eraseIdx_iff_getElem?.mp hother
  exact ⟨i, j, Ne.symm hne, List.getElem?_eq_getElem hi, hj⟩

/-- All pairs are apart exactly if any two edits at different places are. -/
theorem pairwise_apart_iff :
    (edits.Pairwise fun e f => e.range.Apart f.range) ↔
      ∀ e f, AtTwoPlaces edits e f → e.range.Apart f.range := by
  rw [List.pairwise_iff_getElem]
  constructor
  · intro h e f ⟨i, j, hne, hi, hj⟩
    obtain ⟨hilt, rfl⟩ := List.getElem?_eq_some_iff.mp hi
    obtain ⟨hjlt, rfl⟩ := List.getElem?_eq_some_iff.mp hj
    by_cases hlt : i < j
    · exact h i j hilt hjlt hlt
    · exact (h j i hjlt hilt (by omega)).symm
  · intro h i j hi hj hlt
    exact h _ _ ⟨i, j, Nat.ne_of_lt hlt, List.getElem?_eq_getElem hi, List.getElem?_eq_getElem hj⟩

/-! ### The pair that is named -/

/-- Neighbours that clash stand side by side and overlap. -/
theorem neighboursClash_eq_some (h : neighboursClash sorted = some (e, f)) :
    ∃ before after, sorted = before ++ e :: f :: after ∧ e.range.overlaps f.range = true := by
  fun_induction neighboursClash sorted with
  | case1 first next rest hover =>
      cases h
      exact ⟨[], rest, rfl, hover⟩
  | case2 first next rest _ ih =>
      obtain ⟨before, after, hsplit, hover⟩ := ih h
      exact ⟨first :: before, after, by rw [hsplit]; rfl, hover⟩
  | case3 => cases h

/-- **A fault over edits that fit names two of them that share a line.** -/
theorem ordered_error_of_within (hwithin : ∀ edit ∈ edits, edit.range.Within total) {fault : Fault}
    (h : ordered total edits = .error fault) :
    ∃ e f, AtTwoPlaces edits e f ∧ fault = .overlap e.range f.range ∧
      ∃ line, e.range.Holds line ∧ f.range.Holds line := by
  have hfit : edits.find? (fun edit => !edit.fits total) = none := by
    rw [List.find?_eq_none]
    intro edit hmem
    simpa using fits_iff.mpr (hwithin edit hmem)
  simp only [ordered, hfit] at h
  split at h
  · rename_i e f hclash
    cases h
    obtain ⟨before, after, hsplit, hover⟩ := neighboursClash_eq_some hclash
    have hperm : edits.Perm (e :: f :: (before ++ after)) := by
      have hsorted := (List.mergeSort_perm edits atMost).symm
      rw [hsplit] at hsorted
      exact hsorted.trans (List.perm_append_comm_assoc before [e, f] after)
    have he := hwithin e (hperm.mem_iff.mpr (by simp))
    have hf := hwithin f (hperm.mem_iff.mpr (by simp))
    exact ⟨e, f, atTwoPlaces_of_perm hperm, rfl, (LineRange.overlaps_iff he.1 hf.1).mp hover⟩
  · cases h

/-- **The first edit that does not fit is named**, whatever the other ones do. -/
theorem ordered_error_of_not_within (h : ∃ edit ∈ edits, ¬ edit.range.Within total) :
    ∃ before edit after, edits = before ++ edit :: after ∧
      (∀ earlier ∈ before, earlier.range.Within total) ∧ ¬ edit.range.Within total ∧
      ordered total edits = .error (.badRange edit.range total) := by
  cases hfind : edits.find? fun edit => !edit.fits total with
  | none =>
      obtain ⟨edit, hmem, hnot⟩ := h
      have hfits := List.find?_eq_none.mp hfind edit hmem
      exact absurd (fits_iff.mp (by simpa using hfits)) hnot
  | some edit =>
      obtain ⟨hnot, before, after, hsplit, hearlier⟩ := List.find?_eq_some_iff_append.mp hfind
      refine ⟨before, edit, after, hsplit, ?_, ?_, by simp only [ordered, hfind]⟩
      · intro earlier hmem
        exact fits_iff.mp (by simpa using hearlier earlier hmem)
      · intro hwithin
        rw [fits_iff.mpr hwithin] at hnot
        cases hnot

end Edit

theorem applyEdits_error_iff {lines : List String} {edits : List Edit} {fault : Fault} :
    applyEdits lines edits = .error fault ↔ Edit.ordered lines.length edits = .error fault := by
  unfold applyEdits
  cases hordered : Edit.ordered lines.length edits with
  | error found => simp
  | ok sorted => simp

/--
**The editor's check is sound and complete.**  Edits are carried out exactly if each is about some
lines, all of them there, and no two at different places of the list share a line.  If one is about
none or leaves the text, the fault names the first such edit.  Otherwise a fault names two different
edits that do share a line.  In which order edits that pass are given makes no difference.
-/
theorem applyEdits_checks (lines : List String) (edits : List Edit) :
    ((∃ result, applyEdits lines edits = .ok result) ↔
      (∀ edit ∈ edits, edit.range.Within lines.length) ∧
        ∀ e f, Edit.AtTwoPlaces edits e f → e.range.Apart f.range) ∧
    ((∃ edit ∈ edits, ¬ edit.range.Within lines.length) →
      ∃ before edit after, edits = before ++ edit :: after ∧
        (∀ earlier ∈ before, earlier.range.Within lines.length) ∧
        ¬ edit.range.Within lines.length ∧
        applyEdits lines edits = .error (.badRange edit.range lines.length) ∧
        (Fault.badRange edit.range lines.length).code = "region.invalid_boundary") ∧
    ((∀ edit ∈ edits, edit.range.Within lines.length) →
      ∀ fault, applyEdits lines edits = .error fault →
        fault.code = "region.overlapping_ranges" ∧
        ∃ e f, Edit.AtTwoPlaces edits e f ∧ fault = .overlap e.range f.range ∧
          ∃ line, e.range.Holds line ∧ f.range.Holds line) ∧
    ∀ result, applyEdits lines edits = .ok result →
      ∀ other, other.Perm edits → applyEdits lines other = .ok result := by
  refine ⟨?_, ?_, ?_, ?_⟩
  · constructor
    · intro ⟨result, h⟩
      have hcompatible := (applyEdits_eq_ok_iff.mp h).1
      exact ⟨hcompatible.within, Edit.pairwise_apart_iff.mp hcompatible.apart⟩
    · intro ⟨hwithin, hapart⟩
      exact ⟨_, applyEdits_eq_ok_iff.mpr ⟨⟨hwithin, Edit.pairwise_apart_iff.mpr hapart⟩, rfl⟩⟩
  · intro h
    obtain ⟨before, edit, after, hsplit, hearlier, hnot, herror⟩ :=
      Edit.ordered_error_of_not_within h
    exact ⟨before, edit, after, hsplit, hearlier, hnot, applyEdits_error_iff.mpr herror, rfl⟩
  · intro hwithin fault h
    obtain ⟨e, f, hplaces, rfl, hshared⟩ :=
      Edit.ordered_error_of_within hwithin (applyEdits_error_iff.mp h)
    exact ⟨rfl, e, f, hplaces, rfl, hshared⟩
  · intro result h other hperm
    obtain ⟨hcompatible, rfl⟩ := applyEdits_eq_ok_iff.mp h
    rw [← hcompatible.images_perm hperm, ← Edit.stats_perm hperm]
    exact applyEdits_eq_ok_iff.mpr ⟨hcompatible.perm hperm, rfl⟩

/-- A range over all lines, given between two equal ones that it swallows. -/
theorem applyEdits_checks_swallowed :
    let lines := ["a", "b", "c", "d", "e"]
    let late : Edit := ⟨⟨"late", 3, 4⟩, .delete⟩
    let wide : Edit := ⟨⟨"wide", 0, 5⟩, .replace ["A"]⟩
    (∀ edit ∈ [late, wide, late], edit.range.Within lines.length) ∧
      ∃ fault, applyEdits lines [late, wide, late] = .error fault ∧
        fault.code = "region.overlapping_ranges" ∧
        ∃ e f, Edit.AtTwoPlaces [late, wide, late] e f ∧ fault = .overlap e.range f.range ∧
          ∃ line, e.range.Holds line ∧ f.range.Holds line := by
  intro lines late wide
  have hwithin : ∀ edit ∈ [late, wide, late], edit.range.Within lines.length := by
    simp [late, wide, lines, LineRange.Within]
  obtain ⟨haccepts, -, hnames, -⟩ := applyEdits_checks lines [late, wide, late]
  cases houtcome : applyEdits lines [late, wide, late] with
  | ok result =>
      have hplaces : Edit.AtTwoPlaces [late, wide, late] late wide := ⟨0, 1, by decide, rfl, rfl⟩
      have hapart := (haccepts.mp ⟨result, houtcome⟩).2 late wide hplaces 3
      exact absurd (by decide) hapart
  | error fault => exact ⟨hwithin, fault, rfl, hnames hwithin fault houtcome⟩

end LineCut
