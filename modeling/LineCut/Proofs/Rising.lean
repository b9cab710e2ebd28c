/-
Whether the depth of balanced delimiters rises at all.

A region is meant to end where the depth comes back to zero, and to come back it must have gone up.
The counting does not ask for that.  It asks whether an opening delimiter has been seen, and the two
part where a region begins with closing ones.  If its opening line is `end else` and the next is
`begin`, the depth goes down to minus one and up to zero; by then an opening delimiter has been seen
and no more have been opened than closed, and the region ends behind the line that opens the block.

How far the two part can be said exactly.  Up to the first line with an opening delimiter the depth
only falls.  If more are opened on that line than have been closed before it, the depth has been
above zero, whatever comes later.  If not, that line settles the delimiters, and the region ends
with it.  So whether the depth rises is decided on one line, and it is the last one if it does not.
-/
import LineCut.Proofs.Nesting

namespace LineCut

variable {opening closing : String} {lines : List String} {start : Nat}

/-- On line `j` the depth can have been above zero, counted from line `start` on: it has been with
what is opened on the line, as long as nothing has been closed on it. -/
def RisesAt (opening closing : String) (lines : List String) (start j : Nat) : Prop :=
  ∃ line, lines[j]? = some line ∧
    0 < (occurrencesIn opening (lines.extract start j) : Int) -
      occurrencesIn closing (lines.extract start j) + Text.occurrences line opening

/-- Line `k` is the first, from line `start` on, with an opening delimiter. -/
def FirstOpened (opening : String) (lines : List String) (start k : Nat) : Prop :=
  First (fun line => opening.toList <:+: line.toList) lines start k

/-! ### Counting one line more -/

theorem occurrencesIn_append (part : String) (front back : List String) :
    occurrencesIn part (front ++ back) = occurrencesIn part front + occurrencesIn part back := by
  induction front with
  | nil => simp
  | cons line rest ih =>
      rw [List.cons_append, occurrencesIn_cons, occurrencesIn_cons, ih]
      omega

/-- What is counted up to a line, and on it. -/
theorem occurrencesIn_extract_succ (part : String) {j : Nat} {line : String} (hle : start ≤ j)
    (hline : lines[j]? = some line) :
    occurrencesIn part (lines.extract start (j + 1)) =
      occurrencesIn part (lines.extract start j) + Text.occurrences line part := by
  have hnext : lines.extract start (j + 1) = lines.extract start j ++ [line] := by
    rw [List.extract_eq_take_drop, List.extract_eq_take_drop, Nat.sub_add_comm hle,
      List.take_add_one, List.getElem?_drop, Nat.add_sub_cancel' hle, hline, Option.toList_some]
  rw [hnext, occurrencesIn_append, occurrencesIn_cons, occurrencesIn_nil, Nat.add_zero]

/-! ### Up to the first opening delimiter -/

/-- If there is an opening delimiter up to a line there is a first one. -/
theorem exists_firstOpened {i : Nat} (h : Settles opening closing lines start i) :
    ∃ k, k ≤ i ∧ FirstOpened opening lines start k := by
  classical
  obtain ⟨j, line, hle, hj, hline, hopens⟩ := h.opened
  have hex : ∃ k, start ≤ k ∧ ∃ line, lines[k]? = some line ∧ opening.toList <:+: line.toList :=
    ⟨j, hle, line, hline, hopens⟩
  have hfirst : Nat.find hex ≤ j := Nat.find_min' hex ⟨hle, line, hline, hopens⟩
  refine ⟨Nat.find hex, by omega, (Nat.find_spec hex).1, (Nat.find_spec hex).2, ?_⟩
  intro m hm hlt other hother hopens
  exact Nat.find_min hex hlt ⟨hm, other, hother, hopens⟩

/-- If the line above has none, a line with an opening delimiter is the first. -/
theorem firstOpened_second {above line : String} {rest : List String}
    (habove : ¬ opening.toList <:+: above.toList) (hopens : opening.toList <:+: line.toList) :
    FirstOpened opening (above :: line :: rest) 0 1 := by
  refine ⟨Nat.zero_le 1, ⟨line, rfl, hopens⟩, ?_⟩
  intro j _ hj other hother
  obtain rfl : j = 0 := by omega
  cases hother
  exact habove

namespace FirstOpened

variable {k : Nat} (h : FirstOpened opening lines start k)
include h

/-- It comes no later than any line that settles the delimiters. -/
theorem le_of_settles {i : Nat} (hsettles : Settles opening closing lines start i) : k ≤ i := by
  obtain ⟨j, line, hle, hj, hline, hopens⟩ := hsettles.opened
  have hnot : ¬ j < k := fun hlt => h.earlier j hle hlt line hline hopens
  omega

/-- Before it nothing is opened. -/
theorem occurrencesIn_eq_zero (hopening : opening ≠ "") {j : Nat} (hj : j ≤ k) :
    occurrencesIn opening (lines.extract start j) = 0 := by
  cases j with
  | zero => simp
  | succ i =>
      by_contra hpos
      obtain ⟨m, line, hle, hm, hline, hopens⟩ :=
        (opened_iff hopening).mp (Nat.pos_of_ne_zero hpos)
      exact h.earlier m hle (by omega) line hline hopens

/-- So the depth is not above zero before it. -/
theorem not_risesAt (hopening : opening ≠ "") {j : Nat} (hle : start ≤ j) (hj : j < k) :
    ¬ RisesAt opening closing lines start j := by
  intro ⟨line, hline, hrises⟩
  have hnone := h.occurrencesIn_eq_zero hopening (Nat.succ_le_of_lt hj)
  rw [Nat.succ_eq_add_one, occurrencesIn_extract_succ opening hle hline] at hnone
  omega

/-- **On it the depth rises if more are opened than have been closed before.** -/
theorem risesAt_iff (hopening : opening ≠ "") {line : String} (hline : lines[k]? = some line) :
    RisesAt opening closing lines start k ↔
      occurrencesIn closing (lines.extract start k) < Text.occurrences line opening := by
  have hnone := h.occurrencesIn_eq_zero hopening (Nat.le_refl k)
  constructor
  · intro ⟨other, hother, hrises⟩
    rw [hline] at hother
    cases hother
    omega
  · intro hlt
    exact ⟨line, hline, by omega⟩

/-- **If not, it settles the delimiters**, and is the first line that does. -/
theorem isLeast_settles (hopening : opening ≠ "") {line : String} (hline : lines[k]? = some line)
    (hle : Text.occurrences line opening ≤ occurrencesIn closing (lines.extract start k)) :
    IsLeast {i | Settles opening closing lines start i} k := by
  obtain ⟨other, hother, hopens⟩ := h.found
  refine ⟨⟨h.start_le, h.lt_length, ⟨k, other, h.start_le, Nat.le_refl k, hother, hopens⟩, ?_⟩, ?_⟩
  · rw [occurrencesIn_extract_succ opening h.start_le hline,
      occurrencesIn_extract_succ closing h.start_le hline,
      h.occurrencesIn_eq_zero hopening (Nat.le_refl k)]
    omega
  · intro i hsettles
    exact h.le_of_settles hsettles

end FirstOpened

/--
**The depth rises in a region, or the region ends with the first line that opens something.**  In a
region that balanced delimiters end, there is a line on which the depth can have been above zero
exactly if more delimiters are opened on the first line with an opening one than are closed on the
lines before that.  Wherever it is otherwise, the region ends behind that line.
-/
theorem balanced_rises_iff (opening closing : String) (hopening : opening ≠ "")
    (lines : List String) (start : Nat) :
    (∀ e, (Ending.balanced opening closing).find lines start = some e →
      ((∃ j, start ≤ j ∧ j < e ∧ RisesAt opening closing lines start j) ↔
        ∃ k line, FirstOpened opening lines start k ∧ lines[k]? = some line ∧
          occurrencesIn closing (lines.extract start k) < Text.occurrences line opening)) ∧
    ∀ k line, FirstOpened opening lines start k → lines[k]? = some line →
      Text.occurrences line opening ≤ occurrencesIn closing (lines.extract start k) →
        (Ending.balanced opening closing).find lines start = some (k + 1) := by
  constructor
  · intro e hfind
    obtain ⟨last, rfl, hleast⟩ := (find_balanced_eq_some_iff hopening).mp hfind
    obtain ⟨k, hk, hfirst⟩ := exists_firstOpened hleast.1
    obtain ⟨line, hline, -⟩ := hfirst.found
    by_cases hlt : occurrencesIn closing (lines.extract start k) < Text.occurrences line opening
    · have hrises := (hfirst.risesAt_iff hopening hline).mpr hlt
      have hend : k < last + 1 := by omega
      exact ⟨fun _ => ⟨k, line, hfirst, hline, hlt⟩, fun _ => ⟨k, hfirst.start_le, hend, hrises⟩⟩
    · -- The region ends with line `k`, before which the depth only falls.
      obtain rfl : k = last :=
        (hfirst.isLeast_settles hopening hline (Nat.le_of_not_lt hlt)).unique hleast
      constructor
      · intro ⟨j, hle, hj, hrises⟩
        rcases Nat.lt_or_ge j k with hbefore | hge
        · exact absurd hrises (hfirst.not_risesAt hopening hle hbefore)
        · obtain rfl : j = k := by omega
          exact absurd ((hfirst.risesAt_iff hopening hline).mp hrises) hlt
      · intro ⟨m, other, hother, hget, hmore⟩
        have hrises := (hother.risesAt_iff hopening hget).mpr hmore
        have hle := hother.le_of_settles hleast.1
        exact ⟨m, hother.start_le, by omega, hrises⟩
  · intro k line hfirst hline hle
    exact (find_balanced_eq_some_iff hopening).mpr
      ⟨k, rfl, hfirst.isLeast_settles hopening hline hle⟩

/-- Two blocks are opened where one has been closed, and the region lasts until one of them is
closed.  Where one is opened only, it ends with the line that opens it. -/
theorem balanced_rises_iff_closed_before :
    let block := Ending.balanced "begin" "end"
    let twice := ["end else", "begin begin", "  retry", "end"]
    let once := ["end else", "begin", "  retry", "end"]
    block.find twice 0 = some 4 ∧ (∃ j, 0 ≤ j ∧ j < 4 ∧ RisesAt "begin" "end" twice 0 j) ∧
      FirstOpened "begin" once 0 1 ∧ block.find once 0 = some 2 := by
  intro block twice once
  have hopening : "begin" ≠ "" := by decide
  have hfind : block.find twice 0 = some 4 := by decide +kernel
  have htwice : FirstOpened "begin" twice 0 1 :=
    firstOpened_second (by decide +kernel) (by decide +kernel)
  have honce : FirstOpened "begin" once 0 1 :=
    firstOpened_second (by decide +kernel) (by decide +kernel)
  have hmore : occurrencesIn "end" (twice.extract 0 1) <
      Text.occurrences "begin begin" "begin" := by decide +kernel
  have hless : Text.occurrences "begin" "begin" ≤ occurrencesIn "end" (once.extract 0 1) := by
    decide +kernel
  obtain ⟨hrises, -⟩ := balanced_rises_iff "begin" "end" hopening twice 0
  obtain ⟨-, hends⟩ := balanced_rises_iff "begin" "end" hopening once 0
  exact ⟨hfind, (hrises 4 hfind).mpr ⟨1, "begin begin", htwice, rfl, hmore⟩, honce,
    hends 1 "begin" honce rfl hless⟩

/-- So a region can end without the depth having risen in it, and leave open the block that its last
line opens. -/
theorem balanced_ends_without_rising :
    let lines := ["end else", "begin", "  retry", "end"]
    (Ending.balanced "begin" "end").find lines 0 = some 2 ∧
      ¬ ∃ j, 0 ≤ j ∧ j < 2 ∧ RisesAt "begin" "end" lines 0 j := by
  intro lines
  refine ⟨by decide +kernel, ?_⟩
  intro ⟨j, _, hj, line, hline, hrises⟩
  obtain rfl | rfl : j = 0 ∨ j = 1 := by omega
  · cases hline
    exact absurd hrises (by decide +kernel)
  · cases hline
    exact absurd hrises (by decide +kernel)

end LineCut
