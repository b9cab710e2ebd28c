/-
What a set of edits makes of the lines.

The editor sorts the edits and walks over the lines once.  None of that should show: what comes
out is decided line by line.  A line that no edit's range holds stays; where a range starts stand
the lines its edit puts in; all other lines of a range are gone.  `imageAt` says this for one
line, from the edits in whatever order they were given, and `applyEdits_eq_ok_iff` says that the
walk does nothing else.

What makes it true is that the edits are `Compatible`: their ranges hold lines, stay inside the
text and are apart from each other.  That is exactly what the editor checks.  Its check looks at
neighbours in the sorted list only, which is enough because sorted and apart is one behind
another, and one behind another carries over from neighbours to all pairs.
-/
import Mathlib.Data.List.Basic
import Mathlib.Data.List.Pairwise
import LineCut.Edit
import LineCut.Proofs.Ranges

namespace LineCut

namespace Edit

/-! ### Sorting and checking -/

/-- Edits that can be carried out together on a text of `total` lines. -/
structure Compatible (total : Nat) (edits : List Edit) : Prop where
  /-- Every range holds lines and stays among those of the text. -/
  within : ∀ edit ∈ edits, edit.range.Within total
  /-- No two ranges share a line. -/
  apart : edits.Pairwise fun e f => e.range.Apart f.range

variable {total : Nat} {edits sorted : List Edit}

theorem fits_iff {edit : Edit} : edit.fits total = true ↔ edit.range.Within total := by
  simp [fits, LineRange.Within]

theorem atMost_trans (e f g : Edit) (hef : atMost e f = true) (hfg : atMost f g = true) :
    atMost e g = true := by
  simp only [atMost, Bool.or_eq_true, Bool.and_eq_true, decide_eq_true_eq, beq_iff_eq] at *
  omega

theorem atMost_total (e f : Edit) : (atMost e f || atMost f e) = true := by
  simp only [atMost, Bool.or_eq_true, Bool.and_eq_true, decide_eq_true_eq, beq_iff_eq]
  omega

theorem start_le_of_atMost {e f : Edit} (h : atMost e f = true) :
    e.range.start ≤ f.range.start := by
  simp only [atMost, Bool.or_eq_true, Bool.and_eq_true, decide_eq_true_eq, beq_iff_eq] at h
  omega

theorem Compatible.perm {other : List Edit} (h : Compatible total edits)
    (hperm : other.Perm edits) : Compatible total other where
  within edit hmem := h.within edit (hperm.mem_iff.mp hmem)
  apart := hperm.symm.pairwise h.apart LineRange.Apart.symm

/-- Compatible edits that are sorted come one behind another. -/
theorem Compatible.pairwise_before (h : Compatible total sorted)
    (hsorted : sorted.Pairwise fun e f => atMost e f = true) :
    sorted.Pairwise fun e f => e.range.Before f.range := by
  refine (hsorted.and h.apart).imp_of_mem ?_
  rintro e f - hf ⟨hle, hapart⟩
  exact hapart.before (h.within f hf) (start_le_of_atMost hle)

/-- Edits that come one behind another have no neighbours that clash. -/
theorem neighboursClash_of_before (h : sorted.Pairwise fun e f => e.range.Before f.range) :
    neighboursClash sorted = none := by
  fun_induction neighboursClash sorted with
  | case1 e f rest hover =>
      have hbefore := (List.pairwise_cons.mp h).1 f (by simp)
      simp only [LineRange.overlaps, LineRange.Before, Bool.and_eq_true, decide_eq_true_eq]
        at hover hbefore
      omega
  | case2 e f rest _ ih => exact ih (List.pairwise_cons.mp h).2
  | case3 => rfl

/-- Sorted edits without neighbours that clash come one behind another.  Between neighbours that
is the check; further apart it is passed on, since no range is empty. -/
theorem before_of_neighboursClash (h : neighboursClash sorted = none)
    (hsorted : sorted.Pairwise fun e f => atMost e f = true)
    (hwithin : ∀ edit ∈ sorted, edit.range.Within total) :
    sorted.Pairwise fun e f => e.range.Before f.range := by
  fun_induction neighboursClash sorted with
  | case1 => cases h
  | case2 e f rest hover ih =>
      have hrest := ih h (List.pairwise_cons.mp hsorted).2
        (fun edit hmem => hwithin edit (by simp [hmem]))
      have he := hwithin e (by simp)
      have hf := hwithin f (by simp)
      have hle := start_le_of_atMost ((List.pairwise_cons.mp hsorted).1 f (by simp))
      have hapart := (LineRange.apart_iff_overlaps he hf).mpr (by simpa using hover)
      have hbefore := hapart.before hf hle
      refine List.pairwise_cons.mpr ⟨?_, hrest⟩
      intro g hg
      rcases List.mem_cons.mp hg with rfl | hlater
      · exact hbefore
      · have hnext := (List.pairwise_cons.mp hrest).1 g hlater
        have := hf.1
        unfold LineRange.Before at *
        omega
  | case3 sorted hshort =>
      cases sorted with
      | nil => exact .nil
      | cons e rest =>
          cases rest with
          | nil => exact List.pairwise_singleton _ _
          | cons f rest => exact absurd rfl (hshort e f rest)

/-- **Compatible edits are accepted.** -/
theorem ordered_of_compatible (h : Compatible total edits) :
    ordered total edits = .ok (edits.mergeSort atMost) := by
  have hfit : edits.find? (fun edit => !edit.fits total) = none := by
    rw [List.find?_eq_none]
    intro edit hmem
    simpa using fits_iff.mpr (h.within edit hmem)
  have hsorted := List.pairwise_mergeSort atMost_trans atMost_total edits
  have hclash := neighboursClash_of_before
    ((h.perm (List.mergeSort_perm edits atMost)).pairwise_before hsorted)
  simp only [ordered, hfit, hclash]

/-- **Only compatible edits are accepted**, and they come out one behind another. -/
theorem compatible_of_ordered (h : ordered total edits = .ok sorted) :
    Compatible total edits ∧ sorted.Perm edits ∧
      sorted.Pairwise fun e f => e.range.Before f.range := by
  unfold ordered at h
  split at h
  · cases h
  · rename_i hfit
    have hwithin : ∀ edit ∈ edits, edit.range.Within total := by
      intro edit hmem
      have := List.find?_eq_none.mp hfit edit hmem
      exact fits_iff.mp (by simpa using this)
    simp only at h
    split at h
    · cases h
    · rename_i hclash
      cases h
      have hperm := List.mergeSort_perm edits atMost
      have hbefore := before_of_neighboursClash hclash
        (List.pairwise_mergeSort atMost_trans atMost_total edits)
        (fun edit hmem => hwithin edit (hperm.mem_iff.mp hmem))
      refine ⟨⟨hwithin, ?_⟩, hperm, hbefore⟩
      exact hperm.pairwise (hbefore.imp LineRange.Before.apart) LineRange.Apart.symm

/-! ### Line by line

`insertedAt` collects from all edits that start at a line.  There is at most one if the edits are
compatible, and then it does not matter in which order they were given.
-/

/-- The lines put in by the edits that start at line `i`. -/
def insertedAt (edits : List Edit) (i : Nat) : List String :=
  edits.flatMap fun edit => if edit.range.start = i then edit.action.insertion else []

/-- What edits make of line `i`. -/
def imageAt (edits : List Edit) (i : Nat) (line : String) : List String :=
  if ∃ edit ∈ edits, edit.range.Holds i then insertedAt edits i else [line]

/-- What edits make of lines, the first of which has the index `cursor`. -/
def images (edits : List Edit) (cursor : Nat) (lines : List String) : List String :=
  (lines.zipIdx cursor).flatMap fun p => imageAt edits p.2 p.1

/-- At most one of compatible edits holds a line. -/
theorem Compatible.eq_of_holds (h : Compatible total edits) {e f : Edit} (he : e ∈ edits)
    (hf : f ∈ edits) {i : Nat} (hei : e.range.Holds i) (hfi : f.range.Holds i) : e = f := by
  by_contra hne
  have : Std.Symm fun e f : Edit => e.range.Apart f.range := ⟨fun _ _ => LineRange.Apart.symm⟩
  exact h.apart.forall he hf hne i ⟨hei, hfi⟩

theorem insertedAt_eq_nil {i : Nat} (h : ∀ edit ∈ edits, edit.range.start ≠ i) :
    insertedAt edits i = [] := by
  unfold insertedAt
  rw [List.flatMap_eq_nil_iff]
  intro edit hmem
  rw [if_neg (h edit hmem)]

theorem Compatible.insertedAt_start (h : Compatible total edits) {edit : Edit}
    (hmem : edit ∈ edits) : insertedAt edits edit.range.start = edit.action.insertion := by
  obtain ⟨before, after, rfl⟩ := List.append_of_mem hmem
  have hown := (h.within edit hmem).holds_start
  -- another edit that starts here would share this line
  have hother : ∀ other, other ∈ before ∨ other ∈ after →
      other.range.start ≠ edit.range.start := by
    intro other hside heq
    have hin : other ∈ before ++ edit :: after := by
      rcases hside with hb | ha
      · simp [hb]
      · simp [ha]
    have hshared : other.range.Holds edit.range.start := heq ▸ (h.within other hin).holds_start
    obtain ⟨-, hrest, hcross⟩ := List.pairwise_append.mp h.apart
    rcases hside with hb | ha
    · exact hcross other hb edit (by simp) _ ⟨hshared, hown⟩
    · exact (List.pairwise_cons.mp hrest).1 other ha _ ⟨hown, hshared⟩
  have hbefore := insertedAt_eq_nil (fun other hb => hother other (Or.inl hb))
  have hafter := insertedAt_eq_nil (fun other ha => hother other (Or.inr ha))
  simp only [insertedAt] at hbefore hafter
  simp [insertedAt, hbefore, hafter]

/-- The order of compatible edits does not matter. -/
theorem Compatible.imageAt_perm (h : Compatible total edits) {other : List Edit}
    (hperm : other.Perm edits) (i : Nat) (line : String) :
    imageAt other i line = imageAt edits i line := by
  have hheld : (∃ edit ∈ other, edit.range.Holds i) ↔ ∃ edit ∈ edits, edit.range.Holds i := by
    simp only [hperm.mem_iff]
  have hinserted : insertedAt other i = insertedAt edits i := by
    by_cases hstart : ∃ edit ∈ edits, edit.range.start = i
    · obtain ⟨edit, hmem, rfl⟩ := hstart
      rw [h.insertedAt_start hmem, (h.perm hperm).insertedAt_start (hperm.mem_iff.mpr hmem)]
    · have hnone : ∀ edit ∈ edits, edit.range.start ≠ i :=
        fun edit hmem heq => hstart ⟨edit, hmem, heq⟩
      rw [insertedAt_eq_nil hnone,
        insertedAt_eq_nil fun edit hmem => hnone edit (hperm.mem_iff.mp hmem)]
  simp only [imageAt, hheld, hinserted]

/-! ### The walk -/

theorem images_nil (cursor : Nat) (lines : List String) : images [] cursor lines = lines := by
  have hmap : images [] cursor lines = (lines.zipIdx cursor).map Prod.fst := by
    rw [List.map_eq_flatMap]
    simp [images, imageAt]
  rw [hmap, List.zipIdx_map_fst]

theorem images_append (edits : List Edit) (cursor : Nat) (front back : List String) :
    images edits cursor (front ++ back) =
      images edits cursor front ++ images edits (cursor + front.length) back := by
  simp [images, List.zipIdx_append]

/-- Edits that treat every line alike make the same of the lines. -/
theorem images_congr {other : List Edit} {cursor : Nat} {lines : List String}
    (h : ∀ i line, cursor ≤ i → i < cursor + lines.length →
      imageAt edits i line = imageAt other i line) :
    images edits cursor lines = images other cursor lines := by
  unfold images
  refine List.flatMap_congr ?_
  rintro ⟨line, i⟩ hmem
  have := List.mem_zipIdx hmem
  exact h i line this.1 this.2.1

/-- The order of compatible edits does not matter for what they make of the lines. -/
theorem Compatible.images_perm (h : Compatible total edits) {other : List Edit}
    (hperm : other.Perm edits) (cursor : Nat) (lines : List String) :
    images other cursor lines = images edits cursor lines :=
  images_congr fun i line _ _ => h.imageAt_perm hperm i line

/-- Lines that no edit holds stay. -/
theorem images_of_not_holds {cursor : Nat} {lines : List String}
    (h : ∀ i, cursor ≤ i → i < cursor + lines.length → ∀ edit ∈ edits, ¬ edit.range.Holds i) :
    images edits cursor lines = lines := by
  refine (images_congr fun i line hle hlt => ?_).trans (images_nil cursor lines)
  have hnone : ¬ ∃ edit ∈ edits, edit.range.Holds i := by
    rintro ⟨edit, hmem, hholds⟩
    exact h i hle hlt edit hmem hholds
  simp [imageAt, hnone]

/-- The lines of one edit's range become what that edit puts in. -/
theorem Compatible.images_range (h : Compatible total edits) {edit : Edit} (hmem : edit ∈ edits)
    {lines : List String} (hlength : lines.length = edit.range.length) :
    images edits edit.range.start lines = edit.action.insertion := by
  have hpos := (h.within edit hmem).1
  cases lines with
  | nil =>
      simp only [LineRange.length, List.length_nil] at hlength
      omega
  | cons line rest =>
      -- the first line is where the edit starts, and no edit starts at any other
      have hfirst : imageAt edits edit.range.start line = edit.action.insertion := by
        have hheld : ∃ e ∈ edits, e.range.Holds edit.range.start :=
          ⟨edit, hmem, (h.within edit hmem).holds_start⟩
        rw [imageAt, if_pos hheld, h.insertedAt_start hmem]
      have hrest : images edits (edit.range.start + 1) rest = [] := by
        refine List.flatMap_eq_nil_iff.mpr ?_
        rintro ⟨other, i⟩ hp
        obtain ⟨hle, hlt, -⟩ := List.mem_zipIdx hp
        have hin : edit.range.Holds i := by
          simp only [LineRange.length, List.length_cons] at hlength
          exact ⟨by omega, by omega⟩
        rw [imageAt, if_pos ⟨edit, hmem, hin⟩]
        refine insertedAt_eq_nil ?_
        rintro e he rfl
        have heq := h.eq_of_holds he hmem (h.within e he).holds_start hin
        subst heq
        omega
      rw [← List.singleton_append, images_append, List.length_singleton, hrest, List.append_nil]
      simp [images, hfirst]

/-- An edit does not matter to lines of which it holds none. -/
theorem images_cons_of_not_holds {edit : Edit} {rest : List Edit} {cursor : Nat}
    {lines : List String} (hwithin : edit.range.Within total)
    (h : ∀ i, cursor ≤ i → i < cursor + lines.length → ¬ edit.range.Holds i) :
    images (edit :: rest) cursor lines = images rest cursor lines := by
  refine images_congr fun i line hle hlt => ?_
  have hnot := h i hle hlt
  have hstart : edit.range.start ≠ i := fun heq => hnot (heq ▸ hwithin.holds_start)
  simp [imageAt, insertedAt, hnot, hstart]

/-- Behind the range of the first edit only the other ones count. -/
theorem images_of_stop_le {edit : Edit} {rest : List Edit} {cursor : Nat} {lines : List String}
    (h : edit.range.stop ≤ cursor) (hwithin : edit.range.Within total) :
    images (edit :: rest) cursor lines = images rest cursor lines := by
  refine images_cons_of_not_holds hwithin fun i hle _ => ?_
  rintro ⟨-, hlt⟩
  omega

/-- The first edit cuts the lines in three: those before its range, those in it, and those the
other edits go on with. -/
theorem splice_cons_eq {edit : Edit} {rest : List Edit} {cursor : Nat} {lines : List String}
    (hle : cursor ≤ edit.range.start) (hwithin : edit.range.Within (cursor + lines.length)) :
    ∃ front middle back, lines = front ++ (middle ++ back) ∧
      cursor + front.length = edit.range.start ∧ middle.length = edit.range.length ∧
      splice cursor lines (edit :: rest) =
        front ++ edit.action.insertion ++ splice edit.range.stop back rest := by
  obtain ⟨hlt, hend⟩ := hwithin
  refine ⟨lines.take (edit.range.start - cursor),
    (lines.drop (edit.range.start - cursor)).take edit.range.length,
    lines.drop (edit.range.stop - cursor), ?_, ?_, ?_, rfl⟩
  · have hdrop : edit.range.stop - cursor = (edit.range.start - cursor) + edit.range.length := by
      simp only [LineRange.length]
      omega
    rw [hdrop, ← List.drop_drop, List.take_append_drop, List.take_append_drop]
  · rw [List.length_take]
    omega
  · simp only [List.length_take, List.length_drop, LineRange.length]
    omega

/-- **The walk makes of every line what the edits make of it.**  The induction is on the edits;
before the first of them all lines stay, its own become what it puts in, and behind them the
others are left. -/
theorem splice_eq_images {cursor : Nat} {lines : List String}
    (h : Compatible (cursor + lines.length) edits)
    (hbefore : edits.Pairwise fun e f => e.range.Before f.range)
    (hcursor : ∀ edit ∈ edits, cursor ≤ edit.range.start) :
    splice cursor lines edits = images edits cursor lines := by
  induction edits generalizing cursor lines with
  | nil => exact (images_nil cursor lines).symm
  | cons edit rest ih =>
      have hedit := h.within edit (by simp)
      obtain ⟨hlater, hrest⟩ := List.pairwise_cons.mp hbefore
      obtain ⟨front, middle, back, rfl, hfront, hmiddle, hsplice⟩ :=
        splice_cons_eq (hcursor edit (by simp)) hedit
      obtain ⟨hlt, hend⟩ := hedit
      have hstop : cursor + front.length + middle.length = edit.range.stop := by
        simp only [hmiddle, LineRange.length]
        omega
      have hkept : images (edit :: rest) cursor front = front := by
        refine images_of_not_holds ?_
        intro i _ hi e he hholds
        have hstart : edit.range.start ≤ e.range.start := by
          rcases List.mem_cons.mp he with rfl | hr
          · exact Nat.le_refl _
          · have := hlater e hr
            unfold LineRange.Before at this
            omega
        have := hholds.1
        omega
      have hcut : images (edit :: rest) (cursor + front.length) middle = edit.action.insertion := by
        rw [hfront]
        exact h.images_range (by simp) hmiddle
      have hleft : splice edit.range.stop back rest
          = images (edit :: rest) edit.range.stop back := by
        rw [images_of_stop_le (Nat.le_refl _) ⟨hlt, hend⟩]
        refine ih ?_ hrest (fun e he => hlater e he)
        have htotal : edit.range.stop + back.length
            = cursor + (front ++ (middle ++ back)).length := by
          simp only [List.length_append]
          omega
        rw [htotal]
        exact ⟨fun e he => h.within e (by simp [he]), (List.pairwise_cons.mp h.apart).2⟩
      calc splice cursor (front ++ (middle ++ back)) (edit :: rest)
          = front ++ edit.action.insertion ++ splice edit.range.stop back rest := hsplice
        _ = images (edit :: rest) cursor (front ++ (middle ++ back)) := by
            rw [images_append, images_append, hkept, hcut, hstop, hleft, List.append_assoc]

/-- **A line that comes out was there outside all ranges, or an edit put it in.** -/
theorem Compatible.mem_images_iff {lines : List String} (h : Compatible lines.length edits)
    {line : String} :
    line ∈ images edits 0 lines ↔
      (∃ i : Nat, lines[i]? = some line ∧ ∀ edit ∈ edits, ¬ edit.range.Holds i) ∨
        ∃ edit ∈ edits, line ∈ edit.action.insertion := by
  simp only [images, List.mem_flatMap, Prod.exists, List.mk_mem_zipIdx_iff_getElem?]
  constructor
  · rintro ⟨old, i, hold, hmem⟩
    unfold imageAt at hmem
    split at hmem
    · simp only [insertedAt, List.mem_flatMap] at hmem
      obtain ⟨edit, hedit, hin⟩ := hmem
      split at hin
      · exact Or.inr ⟨edit, hedit, hin⟩
      · simp at hin
    · rename_i hnone
      rw [List.mem_singleton.mp hmem]
      exact Or.inl ⟨i, hold, fun edit hedit hholds => hnone ⟨edit, hedit, hholds⟩⟩
  · rintro (⟨i, hline, hnone⟩ | ⟨edit, hedit, hin⟩)
    · refine ⟨line, i, hline, ?_⟩
      rw [imageAt, if_neg]
      · simp
      · rintro ⟨edit, hedit, hholds⟩
        exact hnone edit hedit hholds
    · -- what an edit puts in stands where its range starts, and some line was there
      obtain ⟨hlt, hend⟩ := h.within edit hedit
      have hstart : edit.range.start < lines.length := by omega
      refine ⟨lines[edit.range.start], edit.range.start, List.getElem?_eq_getElem hstart, ?_⟩
      rw [imageAt, if_pos ⟨edit, hedit, (h.within edit hedit).holds_start⟩,
        h.insertedAt_start hedit]
      exact hin

/-! ### What editing does -/

/-- The order of edits does not matter for what is counted. -/
theorem stats_perm {other : List Edit} (h : other.Perm edits) : stats other = stats edits := by
  have hremoved : LineRange.totalLength (other.map (·.range))
      = LineRange.totalLength (edits.map (·.range)) := LineRange.totalLength_perm (h.map _)
  have hinserted : (other.flatMap (·.action.insertion)).length
      = (edits.flatMap (·.action.insertion)).length := (h.flatMap_right _).length_eq
  simp only [stats, hremoved, hinserted]

end Edit

/-- What comes of the walk over the sorted edits, said of the edits as they were given. -/
theorem splice_of_ordered {lines : List String} {edits sorted : List Edit}
    (h : Edit.ordered lines.length edits = .ok sorted) :
    (Edit.splice 0 lines sorted, Edit.stats sorted)
      = (Edit.images edits 0 lines, Edit.stats edits) := by
  obtain ⟨hcompatible, hperm, hbefore⟩ := Edit.compatible_of_ordered h
  have hsorted : Edit.Compatible (0 + lines.length) sorted := by
    rw [Nat.zero_add]
    exact hcompatible.perm hperm
  rw [Edit.splice_eq_images hsorted hbefore (fun edit _ => Nat.zero_le _),
    hcompatible.images_perm hperm, Edit.stats_perm hperm]

/-- **Editing accepts exactly the compatible edits, and makes of every line what they make of
it.** -/
theorem applyEdits_eq_ok_iff {lines : List String} {edits : List Edit}
    {result : List String × EditStats} :
    applyEdits lines edits = .ok result ↔
      Edit.Compatible lines.length edits ∧
        result = (Edit.images edits 0 lines, Edit.stats edits) := by
  unfold applyEdits
  constructor
  · intro h
    cases hordered : Edit.ordered lines.length edits with
    | error fault =>
        rw [hordered] at h
        cases h
    | ok sorted =>
        rw [hordered] at h
        cases h
        exact ⟨(Edit.compatible_of_ordered hordered).1, splice_of_ordered hordered⟩
  · rintro ⟨hcompatible, rfl⟩
    have hordered := Edit.ordered_of_compatible hcompatible
    simp only [hordered, splice_of_ordered hordered]

end LineCut
