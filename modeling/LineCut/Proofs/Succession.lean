/-
One edit after another.

A set of edits speaks of the lines as they are before any of it is done.  Someone who carries them
out one at a time has to renumber: every edit that is done moves the lines behind it, by as many as
it put in and back by as many as it took out.  By the time an edit's turn comes it may have moved
many times, up and down, and what it moved by is the sum over the edits done so far that start
before it.  The others do not matter, wherever they have gone.

What carries the induction is that the lines in between can be said in the old numbering.  After
some edits the lines are the `images` of those at the start under just these edits, in whatever
order they were done.  The range of the next edit shares no line with theirs, so its own lines are
still there, all of them, one behind another; the lines before its range are as many more or fewer
as the drift says, and that is where the moved range looks for them.
-/
import LineCut.Proofs.Pointwise

namespace LineCut

namespace Edit

/-- How many more lines there are after edits than before, fewer if it is negative. -/
def balance (edits : List Edit) : Int :=
  (edits.map fun edit => (edit.inserted : Int) - edit.range.length).sum

/-- By how much edits that are done have moved what stood at line `i`: only those that started
before it count. -/
def drift (done : List Edit) (i : Nat) : Int :=
  balance (done.filter fun edit => edit.range.start < i)

/-- An edit with its range where its lines are once others are done. -/
def rebased (done : List Edit) (edit : Edit) : Edit where
  range := ⟨edit.range.name, (edit.range.start + drift done edit.range.start).toNat,
    (edit.range.stop + drift done edit.range.start).toNat⟩
  action := edit.action

end Edit

/-- Carry out edits one at a time, each by itself on the lines the ones before it have left, and
with its range moved by what those have done. -/
def applyInTurn (done : List Edit) (lines : List String) :
    List Edit → Except Fault (List String × EditStats)
  | [] => .ok (lines, ⟨0, 0⟩)
  | edit :: rest =>
    match applyEdits lines [edit.rebased done] with
    | .error fault => .error fault
    | .ok (next, stats) =>
      match applyInTurn (done ++ [edit]) next rest with
      | .error fault => .error fault
      | .ok (out, more) =>
        .ok (out, ⟨stats.removed + more.removed, stats.inserted + more.inserted⟩)

namespace Edit

variable {edits done rest : List Edit} {edit : Edit} {lines front middle : List String}
  {total : Nat}

/-! ### What one more edit makes of the lines

The three stretches of the lines that an edit speaks of are dealt with one by one.  Before and
behind its range nothing is different for it; in its range stood the lines as they were, and there
stands now what it puts in.
-/

/-- **What one more edit makes of the lines.**  Everything but its own range is as without it. -/
theorem Compatible.images_cons (h : Compatible total (edit :: done))
    (hfront : front.length = edit.range.start) (hmiddle : middle.length = edit.range.length)
    (back : List String) :
    images (edit :: done) 0 (front ++ (middle ++ back)) =
        images done 0 front ++ (edit.action.insertion ++ images done edit.range.stop back) ∧
      images done 0 (front ++ (middle ++ back)) =
        images done 0 front ++ (middle ++ images done edit.range.stop back) := by
  have hwithin := h.within edit (by simp)
  have hapart := (List.pairwise_cons.mp h.apart).1
  have hstop : edit.range.start + middle.length = edit.range.stop := by
    have := hwithin.1
    simp only [hmiddle, LineRange.length]
    omega
  have hbefore : images (edit :: done) 0 front = images done 0 front := by
    refine images_cons_of_not_holds hwithin fun i _ hi hholds => ?_
    have := hholds.1
    omega
  have hown : images done edit.range.start middle = middle := by
    refine images_of_not_holds fun i hle hi other hother hholds => ?_
    exact hapart other hother i ⟨⟨hle, by omega⟩, hholds⟩
  have hput : images (edit :: done) edit.range.start middle = edit.action.insertion :=
    h.images_range (by simp) hmiddle
  have hbehind : images (edit :: done) edit.range.stop back = images done edit.range.stop back :=
    images_of_stop_le (Nat.le_refl _) hwithin
  constructor
  · rw [images_append, images_append, Nat.zero_add, hfront, hstop, hbefore, hput, hbehind]
  · rw [images_append, images_append, Nat.zero_add, hfront, hstop, hown]

/-- **An edit by itself** swaps the lines of its range for those it puts in. -/
theorem applyEdits_singleton (hpos : edit.range.start < edit.range.stop)
    (hfront : front.length = edit.range.start) (hmiddle : middle.length = edit.range.length)
    (back : List String) :
    applyEdits (front ++ (middle ++ back)) [edit] =
      .ok (front ++ (edit.action.insertion ++ back), stats [edit]) := by
  have hwithin : edit.range.Within (front ++ (middle ++ back)).length := by
    refine ⟨hpos, ?_⟩
    simp only [List.length_append, hfront, hmiddle, LineRange.length]
    omega
  have hcompatible : Compatible (front ++ (middle ++ back)).length [edit] :=
    ⟨by simpa using hwithin, List.pairwise_singleton _ _⟩
  have himages := (hcompatible.images_cons hfront hmiddle back).1
  rw [images_nil, images_nil] at himages
  rw [applyEdits_eq_ok_iff]
  exact ⟨hcompatible, by rw [himages]⟩

/-! ### How far an edit has moved

The edits that start before line `i` are edits of the first `i` lines, if no edit reaches over that
line.  So the number of lines in front of it is known from what is known of any set of edits.
-/

theorem balance_eq (edits : List Edit) :
    balance edits = ((stats edits).inserted : Int) - (stats edits).removed := by
  induction edits with
  | nil => rfl
  | cons edit rest ih =>
      have hcons : balance (edit :: rest)
          = (edit.action.insertion.length : Int) - edit.range.length + balance rest := rfl
      simp only [stats] at ih
      rw [hcons, ih]
      simp only [stats, List.map_cons, LineRange.totalLength, List.flatMap_cons, List.length_append]
      omega

/-- Only edits that start before line `n` put something in before it. -/
theorem insertedAt_filter {n i : Nat} (h : i < n) :
    insertedAt (done.filter fun edit => edit.range.start < n) i = insertedAt done i := by
  induction done with
  | nil => rfl
  | cons edit rest ih =>
      simp only [insertedAt] at ih
      by_cases hearly : edit.range.start < n
      · simp [insertedAt, hearly, ih]
      · have hne : edit.range.start ≠ i := by omega
        simp [insertedAt, hearly, hne, ih]

/-- To the lines before line `n` only edits matter that start before it. -/
theorem imageAt_filter {n i : Nat} (h : i < n) (line : String) :
    imageAt (done.filter fun edit => edit.range.start < n) i line = imageAt done i line := by
  have hheld : (∃ edit ∈ done.filter fun edit => edit.range.start < n, edit.range.Holds i) ↔
      ∃ edit ∈ done, edit.range.Holds i := by
    constructor
    · intro ⟨edit, hmem, hholds⟩
      exact ⟨edit, (List.mem_filter.mp hmem).1, hholds⟩
    · intro ⟨edit, hmem, hholds⟩
      have hearly : edit.range.start < n := Nat.lt_of_le_of_lt hholds.1 h
      exact ⟨edit, List.mem_filter.mpr ⟨hmem, decide_eq_true hearly⟩, hholds⟩
  simp only [imageAt, hheld, insertedAt_filter h]

/-- **The lines before an edit's range are as many more or fewer as the drift says.** -/
theorem Compatible.length_images_front (h : Compatible total (edit :: done))
    (hfront : front.length = edit.range.start) :
    ((images done 0 front).length : Int) = edit.range.start + drift done edit.range.start := by
  obtain ⟨hapart, hdone⟩ := List.pairwise_cons.mp h.apart
  have hwithin := h.within edit (by simp)
  set early := done.filter fun other => other.range.start < edit.range.start with hearly
  have hcompatible : Compatible front.length early := by
    refine ⟨fun other hmem => ?_, hdone.filter _⟩
    obtain ⟨hother, hlt⟩ := List.mem_filter.mp hmem
    rw [decide_eq_true_eq] at hlt
    have hbefore := (hapart other hother).symm.before hwithin (Nat.le_of_lt hlt)
    refine ⟨(h.within other (by simp [hother])).1, ?_⟩
    rw [hfront]
    exact hbefore
  have himages : images done 0 front = images early 0 front :=
    images_congr fun i line _ hi => (imageAt_filter (by omega) line).symm
  have hlength := length_of_applyEdits (applyEdits_eq_ok_iff.mpr ⟨hcompatible, rfl⟩)
  rw [himages, drift, ← hearly, balance_eq, ← hfront]
  omega

/-! ### One edit, and then all of them -/

theorem stats_singleton (edit : Edit) :
    stats [edit] = ⟨edit.range.length, edit.action.insertion.length⟩ := by
  simp [stats, LineRange.totalLength]

/-- The moved range begins behind the lines that are in front of it now, and is as long as
before. -/
theorem range_rebased {n : Nat} (hpos : edit.range.start < edit.range.stop)
    (hmoved : (n : Int) = edit.range.start + drift done edit.range.start) :
    (edit.rebased done).range = ⟨edit.range.name, n, n + edit.range.length⟩ := by
  have hstart : ((edit.range.start : Int) + drift done edit.range.start).toNat = n := by omega
  have hstop : ((edit.range.stop : Int) + drift done edit.range.start).toNat
      = n + edit.range.length := by
    simp only [LineRange.length]
    omega
  simp only [rebased, hstart, hstop]

/-- **An edit whose turn it is finds its lines where they have been moved to**, and does to them
what it would have done before the others. -/
theorem Compatible.applyEdits_rebased (h : Compatible lines.length (edit :: done)) :
    applyEdits (images done 0 lines) [edit.rebased done] =
      .ok (images (edit :: done) 0 lines, stats [edit]) := by
  have hwithin : edit.range.Within (0 + lines.length) := by
    rw [Nat.zero_add]
    exact h.within edit (by simp)
  obtain ⟨front, middle, back, rfl, hfront, hmiddle, -⟩ :=
    @splice_cons_eq edit [] 0 lines (Nat.zero_le _) hwithin
  rw [Nat.zero_add] at hfront
  obtain ⟨hwith, hwithout⟩ := h.images_cons hfront hmiddle back
  have hrange := range_rebased hwithin.1 (h.length_images_front hfront)
  have hlength : (edit.rebased done).range.length = edit.range.length := by
    simp [hrange, LineRange.length]
  have hfull : (edit.rebased done).range.start < (edit.rebased done).range.stop := by
    have := hwithin.1
    simp only [hrange, LineRange.length]
    omega
  have hsingle := applyEdits_singleton hfull (by rw [hrange]) (hmiddle.trans hlength.symm)
    (images done edit.range.stop back)
  rw [hwith, hwithout, hsingle, stats_singleton, stats_singleton, hlength]
  rfl

/-- In a list of compatible edits each is compatible with those in front of it. -/
theorem Compatible.next (h : Compatible total (done ++ edit :: rest)) :
    Compatible total (edit :: done) := by
  have hperm : (edit :: (done ++ rest)).Perm (done ++ edit :: rest) := List.perm_middle.symm
  have hall := h.perm hperm
  have hsublist : (edit :: done).Sublist (edit :: (done ++ rest)) := by simp
  exact ⟨fun other hmem => hall.within other (hsublist.subset hmem), hall.apart.sublist hsublist⟩

/-- **A run of edits, one at a time.**  The induction is on those that are still to come; the lines
so far are what the done ones make of those at the start. -/
theorem Compatible.applyInTurn_images (h : Compatible lines.length (done ++ rest)) :
    applyInTurn done (images done 0 lines) rest =
      .ok (images (done ++ rest) 0 lines, stats rest) := by
  induction rest generalizing done with
  | nil =>
      rw [List.append_nil]
      rfl
  | cons edit rest ih =>
      have hnext := h.next
      have hlater : Compatible lines.length ((done ++ [edit]) ++ rest) := by
        rw [List.append_assoc]
        exact h
      have hperm : (done ++ [edit]).Perm (edit :: done) := List.perm_append_singleton edit done
      have hrest := ih hlater
      rw [hnext.images_perm hperm, List.append_assoc] at hrest
      rw [applyInTurn]
      simp only [hnext.applyEdits_rebased, hrest, stats_singleton]
      simp [stats, LineRange.totalLength]

end Edit

/--
**Edits that can be done at once can be done one at a time, in any order.**  Each by itself, on the
lines that the ones before it have left and with its range moved by their drift, succeeds.  The
lines at the end are those of doing all at once, and what the single edits took out and put in
adds up to what was counted then.  No range is ever moved to before the first line.
-/
theorem applyInTurn_eq_applyEdits {lines : List String} {edits order : List Edit}
    {result : List String × EditStats} (h : applyEdits lines edits = .ok result)
    (horder : order.Perm edits) :
    applyInTurn [] lines order = .ok result ∧
      ∀ done edit rest, order = done ++ edit :: rest →
        0 ≤ (edit.range.start : Int) + Edit.drift done edit.range.start := by
  obtain ⟨hcompatible, rfl⟩ := applyEdits_eq_ok_iff.mp h
  have hall : Edit.Compatible lines.length ([] ++ order) := hcompatible.perm horder
  constructor
  · have hrun := hall.applyInTurn_images
    rw [Edit.images_nil, List.nil_append, hcompatible.images_perm horder,
      Edit.stats_perm horder] at hrun
    exact hrun
  · intro done edit rest hsplit
    rw [List.nil_append, hsplit] at hall
    have hnext := hall.next
    have hend := (hnext.within edit (by simp)).2
    have hpos := (hnext.within edit (by simp)).1
    have hfront : (lines.take edit.range.start).length = edit.range.start := by
      rw [List.length_take]
      omega
    have hmoved := hnext.length_images_front hfront
    omega

/-- Three edits, two of which touch and one of which makes the text longer, in the order second,
third, first. -/
theorem applyInTurn_touching :
    let lines := ["a", "b", "c", "d", "e"]
    let edits : List Edit := [⟨⟨"a", 0, 1⟩, .delete⟩, ⟨⟨"b", 1, 3⟩, .replace ["B", "C", "D"]⟩,
      ⟨⟨"end", 4, 5⟩, .replace ["E"]⟩]
    let order : List Edit := [⟨⟨"b", 1, 3⟩, .replace ["B", "C", "D"]⟩,
      ⟨⟨"end", 4, 5⟩, .replace ["E"]⟩, ⟨⟨"a", 0, 1⟩, .delete⟩]
    applyEdits lines edits = .ok (["B", "C", "D", "d", "E"], ⟨4, 4⟩) ∧ order.Perm edits ∧
      applyInTurn [] lines order = .ok (["B", "C", "D", "d", "E"], ⟨4, 4⟩) := by
  intro lines edits order
  have happly : applyEdits lines edits = .ok (["B", "C", "D", "d", "E"], ⟨4, 4⟩) := by cbv
  have horder : order.Perm edits := by decide
  exact ⟨happly, horder, (applyInTurn_eq_applyEdits happly horder).1⟩

end LineCut
