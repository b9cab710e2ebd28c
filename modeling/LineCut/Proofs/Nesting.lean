/-
Where balanced delimiters end a region.

The rule for balanced delimiters counts line by line.  It carries two things from one line to the
next, how many more have been opened than closed, and whether any has been opened at all, and it
looks at them only when a line is over.  What that comes to is said without the counting: a line
`Settles` the delimiters if one has been opened on it or before it, from the opening line of the
region on, and as many have been closed as opened.  The region ends behind the first such line.

That no block is cut open is another matter, for within a line there is no telling from the counts
what closes what: `} else {` closes one block and opens another, and the depth behind it is that
before it.  If the delimiters are single characters the depth can be followed from one character to
the next.  It changes by one at most.  So from the first opening character, behind which it is one,
to the end of the last line of the region, where it is not above zero any more, it has to pass
through zero, and where it first does the block is closed that the first character opened.
-/
import Mathlib.Data.Nat.Find
import Mathlib.Order.Bounds.Basic
import LineCut.Proofs.Tightness

namespace LineCut

variable {opening closing : String} {lines : List String} {start : Nat}

/-! ### Counting by lines -/

/-- How often a text occurs in some lines, in each from the left and without overlaps. -/
def occurrencesIn (part : String) : List String → Nat
  | [] => 0
  | line :: rest => Text.occurrences line part + occurrencesIn part rest

@[simp] theorem occurrencesIn_nil (part : String) : occurrencesIn part [] = 0 := rfl

@[simp] theorem occurrencesIn_cons (part line : String) (rest : List String) :
    occurrencesIn part (line :: rest) = Text.occurrences line part + occurrencesIn part rest := rfl

/-- Of the lines from `start` on, line `i` is one by the end of which a delimiter has been opened
and no more have been opened than closed. -/
structure Settles (opening closing : String) (lines : List String) (start i : Nat) : Prop where
  /-- The line is one of those that are looked at. -/
  start_le : start ≤ i
  /-- It is there. -/
  lt_length : i < lines.length
  /-- On it or before it there is an opening delimiter. -/
  opened : ∃ j line, start ≤ j ∧ j ≤ i ∧ lines[j]? = some line ∧ opening.toList <:+: line.toList
  /-- As many have been closed as opened. -/
  settled : occurrencesIn opening (lines.extract start (i + 1)) ≤
    occurrencesIn closing (lines.extract start (i + 1))

/-- The same of line `m` of those that are left, with what has been counted in the lines before
them. -/
structure SettlesAfter (opening closing : String) (depth : Int) (opened : Bool)
    (rest : List String) (m : Nat) : Prop where
  lt_length : m < rest.length
  opened : opened = true ∨ 0 < occurrencesIn opening (rest.take (m + 1))
  settled : depth + occurrencesIn opening (rest.take (m + 1)) ≤
    occurrencesIn closing (rest.take (m + 1))

variable {depth : Int} {opened : Bool} {line : String} {rest : List String} {m : Nat}

/-- Whether the first of the lines settles it is what is asked behind it. -/
theorem settlesAfter_zero_iff :
    SettlesAfter opening closing depth opened (line :: rest) 0 ↔
      ((opened || decide (0 < Text.occurrences line opening)) && decide
        (depth + Text.occurrences line opening - Text.occurrences line closing ≤ 0)) = true := by
  simp only [Bool.and_eq_true, Bool.or_eq_true, decide_eq_true_eq]
  constructor
  · intro h
    have hopened := h.opened
    have hsettled := h.settled
    simp only [List.take_succ_cons, List.take_zero, occurrencesIn_cons, occurrencesIn_nil,
      Nat.add_zero, Nat.zero_add] at hopened hsettled
    exact ⟨hopened, by omega⟩
  · intro ⟨hopened, hsettled⟩
    refine ⟨by simp, by simpa using hopened, ?_⟩
    simp only [List.take_succ_cons, List.take_zero, occurrencesIn_cons, occurrencesIn_nil,
      Nat.add_zero, Nat.zero_add]
    omega

/-- For the later ones the first is counted with those before. -/
theorem settlesAfter_succ_iff :
    SettlesAfter opening closing depth opened (line :: rest) (m + 1) ↔
      SettlesAfter opening closing
        (depth + Text.occurrences line opening - Text.occurrences line closing)
        (opened || decide (0 < Text.occurrences line opening)) rest m := by
  have hopened : (opened = true ∨ 0 < occurrencesIn opening ((line :: rest).take (m + 1 + 1))) ↔
      (opened || decide (0 < Text.occurrences line opening)) = true ∨
        0 < occurrencesIn opening (rest.take (m + 1)) := by
    rw [List.take_succ_cons, occurrencesIn_cons, Nat.add_pos_iff_pos_or_pos, Bool.or_eq_true,
      decide_eq_true_eq, or_assoc]
  constructor
  · intro h
    have hsettled := h.settled
    rw [List.take_succ_cons, occurrencesIn_cons, occurrencesIn_cons] at hsettled
    exact ⟨by simpa using h.lt_length, hopened.mp h.opened, by omega⟩
  · intro h
    have hsettled := h.settled
    refine ⟨by simpa using h.lt_length, hopened.mpr h.opened, ?_⟩
    rw [List.take_succ_cons, occurrencesIn_cons, occurrencesIn_cons]
    omega

/-- **The counting ends behind the first line that settles the delimiters.**  The induction is on
the lines that are left. -/
theorem exists_settlesAfter_of_balancedAt {index e : Nat}
    (h : Ending.balancedAt opening closing index depth opened rest = some e) :
    ∃ m, e = index + m + 1 ∧ SettlesAfter opening closing depth opened rest m ∧
      ∀ k, k < m → ¬ SettlesAfter opening closing depth opened rest k := by
  induction rest generalizing index depth opened with
  | nil => cases h
  | cons line rest ih =>
      unfold Ending.balancedAt at h
      dsimp only at h
      split at h
      · rename_i hfirst
        cases h
        exact ⟨0, rfl, settlesAfter_zero_iff.mpr hfirst, fun k hk => absurd hk (Nat.not_lt_zero k)⟩
      · rename_i hfirst
        obtain ⟨m, rfl, hsettles, hearlier⟩ := ih h
        refine ⟨m + 1, by omega, settlesAfter_succ_iff.mpr hsettles, ?_⟩
        intro k hk hearly
        cases k with
        | zero => exact hfirst (settlesAfter_zero_iff.mp hearly)
        | succ k => exact hearlier k (by omega) (settlesAfter_succ_iff.mp hearly)

/-- If it does not end there is no such line. -/
theorem not_settlesAfter_of_balancedAt {index : Nat}
    (h : Ending.balancedAt opening closing index depth opened rest = none) (m : Nat) :
    ¬ SettlesAfter opening closing depth opened rest m := by
  induction rest generalizing index depth opened m with
  | nil => exact fun hsettles => absurd hsettles.lt_length (Nat.not_lt_zero m)
  | cons line rest ih =>
      unfold Ending.balancedAt at h
      dsimp only at h
      split at h
      · cases h
      · rename_i hfirst
        intro hsettles
        cases m with
        | zero => exact hfirst (settlesAfter_zero_iff.mp hsettles)
        | succ m => exact ih h m (settlesAfter_succ_iff.mp hsettles)

/-- In some lines a text occurs exactly if it does in one of them. -/
theorem occurrencesIn_pos_iff {part : String} (h : part ≠ "") {lines : List String} :
    0 < occurrencesIn part lines ↔ ∃ line ∈ lines, part.toList <:+: line.toList := by
  have hpart : part.toList ≠ [] := by simpa using h
  induction lines with
  | nil => simp
  | cons line rest ih =>
      have hline : 0 < Text.occurrences line part ↔ part.toList <:+: line.toList := by
        rw [Text.occurrences, Text.count_pos_iff hpart, Text.holds_iff]
      rw [occurrencesIn_cons, Nat.add_pos_iff_pos_or_pos, hline, List.exists_mem_cons_iff]
      exact or_congr_right ih

/-- The lines between two places, by their indices. -/
theorem exists_mem_extract_iff {lines : List String} {start i : Nat} {P : String → Prop} :
    (∃ line ∈ lines.extract start (i + 1), P line) ↔
      ∃ j line, start ≤ j ∧ j ≤ i ∧ lines[j]? = some line ∧ P line := by
  rw [List.extract_eq_take_drop]
  constructor
  · intro ⟨line, hmem, hline⟩
    obtain ⟨k, hk⟩ := List.getElem?_of_mem hmem
    rw [List.getElem?_take] at hk
    split at hk
    · rw [List.getElem?_drop] at hk
      exact ⟨start + k, line, by omega, by omega, hk, hline⟩
    · cases hk
  · intro ⟨j, line, hle, hj, hget, hline⟩
    refine ⟨line, List.mem_of_getElem? (i := j - start) ?_, hline⟩
    rw [List.getElem?_take, if_pos (by omega), List.getElem?_drop, Nat.add_sub_cancel' hle]
    exact hget

/-- That a delimiter has been opened is seen from how many have been. -/
theorem opened_iff (hopening : opening ≠ "") {i : Nat} :
    0 < occurrencesIn opening (lines.extract start (i + 1)) ↔
      ∃ j line, start ≤ j ∧ j ≤ i ∧ lines[j]? = some line ∧ opening.toList <:+: line.toList := by
  rw [occurrencesIn_pos_iff hopening, exists_mem_extract_iff]

/-- **At the opening line nothing has been counted yet.** -/
theorem settlesAfter_drop_iff (hopening : opening ≠ "") {m : Nat} :
    SettlesAfter opening closing 0 false (lines.drop start) m ↔
      Settles opening closing lines start (start + m) := by
  have hextract : (lines.drop start).take (m + 1) = lines.extract start (start + m + 1) := by
    rw [List.extract_eq_take_drop, Nat.add_assoc, Nat.add_sub_cancel_left]
  constructor
  · intro h
    have hlt := h.lt_length
    have hopened := h.opened
    have hsettled := h.settled
    rw [List.length_drop] at hlt
    rw [hextract] at hopened hsettled
    refine ⟨Nat.le_add_right _ _, by omega, (opened_iff hopening).mp ?_, by omega⟩
    simpa using hopened
  · intro h
    have hlt := h.lt_length
    have hsettled := h.settled
    have hopened := (opened_iff hopening).mpr h.opened
    rw [← hextract] at hopened hsettled
    refine ⟨?_, Or.inr hopened, by omega⟩
    rw [List.length_drop]
    omega

/-- **There is no end exactly if no line settles the delimiters.** -/
theorem find_balanced_eq_none_iff (hopening : opening ≠ "") :
    (Ending.balanced opening closing).find lines start = none ↔
      ∀ i, ¬ Settles opening closing lines start i := by
  constructor
  · intro h i hsettles
    obtain ⟨m, rfl⟩ := Nat.exists_eq_add_of_le hsettles.start_le
    exact not_settlesAfter_of_balancedAt h m ((settlesAfter_drop_iff hopening).mpr hsettles)
  · intro h
    cases hfind : (Ending.balanced opening closing).find lines start with
    | none => rfl
    | some e =>
        obtain ⟨m, -, hsettles, -⟩ := exists_settlesAfter_of_balancedAt hfind
        exact absurd ((settlesAfter_drop_iff hopening).mp hsettles) (h _)

/-- **The end is behind the first line that settles them.** -/
theorem find_balanced_eq_some_iff (hopening : opening ≠ "") {e : Nat} :
    (Ending.balanced opening closing).find lines start = some e ↔
      ∃ i, e = i + 1 ∧ IsLeast {i | Settles opening closing lines start i} i := by
  have hleast : ∀ {e}, (Ending.balanced opening closing).find lines start = some e →
      ∃ i, e = i + 1 ∧ IsLeast {i | Settles opening closing lines start i} i := by
    intro e h
    obtain ⟨m, rfl, hsettles, hearlier⟩ := exists_settlesAfter_of_balancedAt h
    refine ⟨start + m, rfl, (settlesAfter_drop_iff hopening).mp hsettles, ?_⟩
    intro j hj
    obtain ⟨k, rfl⟩ := Nat.exists_eq_add_of_le hj.start_le
    have hk : ¬ k < m := fun hlt => hearlier k hlt ((settlesAfter_drop_iff hopening).mpr hj)
    omega
  constructor
  · exact hleast
  · intro ⟨i, he, hi⟩
    cases hfind : (Ending.balanced opening closing).find lines start with
    | none => exact absurd hi.1 ((find_balanced_eq_none_iff hopening).mp hfind i)
    | some found =>
        obtain ⟨j, hj, hfirst⟩ := hleast hfind
        rw [he, hj, hfirst.unique hi]

/-! ### Following the depth by characters -/

/-- By how much more often the one character occurs than the other among the first `n`. -/
def depthAt (o c : Char) (text : List Char) (n : Nat) : Int :=
  (text.take n).count o - (text.take n).count c

/-- The first of the text that is one of the two characters is an opening one, at place `a`. -/
structure OpensAt (o c : Char) (text : List Char) (a : Nat) : Prop where
  /-- There it is. -/
  found : text[a]? = some o
  /-- Neither of the two is in front of it. -/
  earlier : ∀ j, j < a → text[j]? ≠ some o ∧ text[j]? ≠ some c

/-- The character at place `b` closes what is opened at place `a`: it is the first behind that with
which the depth is back at zero. -/
structure ClosesAt (o c : Char) (text : List Char) (a b : Nat) : Prop where
  /-- It comes behind the opening one. -/
  behind : a < b
  /-- It is a closing one. -/
  found : text[b]? = some c
  /-- Behind it as many have been closed as opened. -/
  level : depthAt o c text (b + 1) = 0
  /-- Between the two there have been more opened. -/
  above : ∀ n, a < n → n ≤ b → 0 < depthAt o c text n

variable {o c : Char} {text : List Char} {a : Nat}

/-- The depth changes by what the next character is. -/
theorem depthAt_succ {n : Nat} {x : Char} (h : text[n]? = some x) :
    depthAt o c text (n + 1) =
      depthAt o c text n + (if x = o then 1 else 0) - (if x = c then 1 else 0) := by
  rw [depthAt, depthAt, List.take_add_one, h, Option.toList_some, List.count_append,
    List.count_append, List.count_singleton, List.count_singleton]
  simp only [beq_iff_eq]
  by_cases ho : x = o
  · by_cases hc : x = c
    · simp only [if_pos ho, if_pos hc]
      omega
    · simp only [if_pos ho, if_neg hc]
      omega
  · by_cases hc : x = c
    · simp only [if_neg ho, if_pos hc]
      omega
    · simp only [if_neg ho, if_neg hc]
      omega

/-- Behind the first opening character the depth is one. -/
theorem OpensAt.depthAt_succ (h : OpensAt o c text a) (hne : o ≠ c) :
    depthAt o c text (a + 1) = 1 := by
  have hnone : ∀ x, (∀ j, j < a → text[j]? ≠ some x) → (text.take a).count x = 0 := by
    intro x hx
    rw [List.count_eq_zero]
    intro hmem
    obtain ⟨j, hj⟩ := List.getElem?_of_mem hmem
    rw [List.getElem?_take] at hj
    split at hj
    · rename_i hlt
      exact hx j hlt hj
    · cases hj
  have hbefore : depthAt o c text a = 0 := by
    rw [depthAt, hnone o fun j hj => (h.earlier j hj).1, hnone c fun j hj => (h.earlier j hj).2]
    rfl
  rw [LineCut.depthAt_succ h.found, hbefore, if_pos rfl, if_neg hne]
  rfl

/-- **From a depth above zero to one that is not, there is a first place where it is zero.**  A step
changes it by one at most. -/
theorem OpensAt.exists_closesAt (h : OpensAt o c text a) (hne : o ≠ c) {n : Nat}
    (hn : n ≤ text.length) (han : a < n) (hlevel : depthAt o c text n ≤ 0) :
    ∃ b, b < n ∧ ClosesAt o c text a b := by
  have hex : ∃ k, a < k ∧ depthAt o c text k ≤ 0 := ⟨n, han, hlevel⟩
  obtain ⟨hak, hdown⟩ := Nat.find_spec hex
  have hkn : Nat.find hex ≤ n := Nat.find_min' hex ⟨han, hlevel⟩
  have hup : ∀ m, a < m → m < Nat.find hex → 0 < depthAt o c text m := by
    intro m ham hm
    have hnot := Nat.find_min hex hm
    omega
  obtain ⟨b, hb⟩ : ∃ b, Nat.find hex = b + 1 := ⟨Nat.find hex - 1, by omega⟩
  rw [hb] at hak hdown hkn hup
  have hab : a < b := by
    rcases Nat.lt_or_ge a b with hlt | hge
    · exact hlt
    · obtain rfl : a = b := by omega
      rw [h.depthAt_succ hne] at hdown
      omega
  have hx : text[b]? = some text[b] := List.getElem?_eq_getElem (by omega)
  have hstep := LineCut.depthAt_succ (o := o) (c := c) hx
  have habove := hup b hab (Nat.lt_succ_self b)
  have hclosing : text[b] = c := by
    by_contra hother
    rw [if_neg hother] at hstep
    split at hstep <;> omega
  rw [hclosing, if_neg (Ne.symm hne), if_pos rfl] at hstep
  refine ⟨b, hkn, hab, by rw [hx, hclosing], by omega, ?_⟩
  intro m ham hm
  exact hup m ham (Nat.lt_succ_of_le hm)

/-- What is opened is closed at one place only. -/
theorem ClosesAt.unique {b d : Nat} (h : ClosesAt o c text a b) (hother : ClosesAt o c text a d) :
    b = d := by
  rcases Nat.lt_trichotomy b d with hlt | heq | hgt
  · have habove := hother.above (b + 1) (Nat.lt_succ_of_lt h.behind) hlt
    rw [h.level] at habove
    exact absurd habove (Int.lt_irrefl 0)
  · exact heq
  · have habove := h.above (d + 1) (Nat.lt_succ_of_lt hother.behind) hgt
    rw [hother.level] at habove
    exact absurd habove (Int.lt_irrefl 0)

/-! ### From characters to lines -/

/-- The characters of some lines, one line after the other. -/
def characters (lines : List String) : List Char :=
  lines.flatMap String.toList

theorem characters_cons (line : String) (rest : List String) :
    characters (line :: rest) = line.toList ++ characters rest := rfl

/-- A single character is counted wherever it stands. -/
theorem count_singleton (c : Char) (text : List Char) : Text.count [c] text = text.count c := by
  induction text with
  | nil => simp [Text.count]
  | cons d rest ih =>
      rw [Text.count, List.count_cons]
      by_cases hd : d = c
      · simp [hd, ih]
      · simp [hd, Ne.symm hd, ih]

theorem occurrencesIn_singleton (c : Char) (lines : List String) :
    occurrencesIn (String.singleton c) lines = (characters lines).count c := by
  induction lines with
  | nil => rfl
  | cons line rest ih =>
      rw [occurrencesIn_cons, characters_cons, List.count_append, ih, Text.occurrences]
      simp [count_singleton]

/-- **Every character stands on a line.** -/
theorem exists_line_of_lt {b : Nat} (h : b < (characters lines).length) :
    ∃ i line column, lines[i]? = some line ∧ column < line.toList.length ∧
      b = (characters (lines.take i)).length + column := by
  induction lines generalizing b with
  | nil => cases h
  | cons line rest ih =>
      rw [characters_cons, List.length_append] at h
      by_cases hfirst : b < line.toList.length
      · exact ⟨0, line, b, rfl, hfirst, by simp [characters]⟩
      · obtain ⟨i, other, column, hother, hcolumn, heq⟩ :=
          ih (b := b - line.toList.length) (by omega)
        refine ⟨i + 1, other, column, by simpa using hother, hcolumn, ?_⟩
        rw [List.take_succ_cons, characters_cons, List.length_append]
        omega

/-- The characters of the lines up to some place are the first of those that follow. -/
theorem characters_extract_prefix (lines : List String) (start stop : Nat) :
    characters (lines.extract start stop) <+: characters (lines.drop start) := by
  rw [List.extract_eq_take_drop]
  refine ⟨characters ((lines.drop start).drop (stop - start)), ?_⟩
  rw [characters, characters, ← List.flatMap_append, List.take_append_drop]
  rfl

/-- **The block that the first opening character opens is closed on a line of the region.** -/
theorem OpensAt.exists_closesAt_line {e : Nat} (h : OpensAt o c (characters (lines.drop start)) a)
    (hne : o ≠ c)
    (hfind : (Ending.balanced (String.singleton o) (String.singleton c)).find lines start =
      some e) :
    ∃ i line column, start ≤ i ∧ i < e ∧ lines[i]? = some line ∧ column < line.toList.length ∧
      ClosesAt o c (characters (lines.drop start)) a
        ((characters (lines.extract start i)).length + column) := by
  have hopening : String.singleton o ≠ "" := by simp
  obtain ⟨last, rfl, hsettles, -⟩ := (find_balanced_eq_some_iff hopening).mp hfind
  have hfront := characters_extract_prefix lines start (last + 1)
  have htake : (characters (lines.drop start)).take
      (characters (lines.extract start (last + 1))).length =
        characters (lines.extract start (last + 1)) := (List.prefix_iff_eq_take.mp hfront).symm
  have hlevel : depthAt o c (characters (lines.drop start))
      (characters (lines.extract start (last + 1))).length ≤ 0 := by
    have hsettled := hsettles.settled
    rw [occurrencesIn_singleton, occurrencesIn_singleton] at hsettled
    rw [depthAt, htake]
    omega
  have hbehind : a < (characters (lines.extract start (last + 1))).length := by
    have hopened := (opened_iff hopening).mpr hsettles.opened
    rw [occurrencesIn_singleton, List.count_pos_iff] at hopened
    obtain ⟨p, hp⟩ := List.getElem?_of_mem hopened
    have hlt := (List.getElem?_eq_some_iff.mp hp).1
    rw [← htake, List.getElem?_take, if_pos hlt] at hp
    have hle : ¬ p < a := fun hbefore => (h.earlier p hbefore).1 hp
    omega
  obtain ⟨b, hb, hcloses⟩ := h.exists_closesAt hne hfront.length_le hbehind hlevel
  -- The line is counted from the opening one, so its place in the text lies that much further on.
  obtain ⟨k, line, column, hline, hcolumn, rfl⟩ := exists_line_of_lt hb
  rw [List.extract_eq_take_drop, List.getElem?_take] at hline
  split at hline
  · rename_i hk
    rw [List.getElem?_drop] at hline
    have hbefore : (lines.extract start (last + 1)).take k = lines.extract start (start + k) := by
      rw [List.extract_eq_take_drop, List.extract_eq_take_drop, List.take_take,
        Nat.add_sub_cancel_left, Nat.min_eq_left (Nat.le_of_lt hk)]
    rw [hbefore] at hcloses
    exact ⟨start + k, line, column, by omega, by omega, hline, hcolumn, hcloses⟩
  · cases hline

/--
**Balanced delimiters cut no block open.**  The region ends behind the first line, from its opening
line on, by the end of which a delimiter has been opened and no more have been opened than closed;
if there is no such line it does not end.  If the delimiters are two different characters, and the
first of either that comes is an opening one, then what that one opens is closed in the region: the
one place where it is closed is in one of its lines, wherever else that line closes and opens.
-/
theorem balanced_cuts_no_block (opening closing : String) (hopening : opening ≠ "")
    (lines : List String) (start : Nat) :
    (∀ e, (Ending.balanced opening closing).find lines start = some e ↔
      ∃ i, e = i + 1 ∧ IsLeast {i | Settles opening closing lines start i} i) ∧
    ((Ending.balanced opening closing).find lines start = none ↔
      ∀ i, ¬ Settles opening closing lines start i) ∧
    ∀ (o c : Char) (a e : Nat), opening = String.singleton o → closing = String.singleton c →
      o ≠ c → OpensAt o c (characters (lines.drop start)) a →
      (Ending.balanced opening closing).find lines start = some e →
      ∃ i line column, start ≤ i ∧ i < e ∧ lines[i]? = some line ∧ column < line.toList.length ∧
        ∀ b, ClosesAt o c (characters (lines.drop start)) a b ↔
          b = (characters (lines.extract start i)).length + column := by
  refine ⟨fun e => find_balanced_eq_some_iff hopening, find_balanced_eq_none_iff hopening, ?_⟩
  intro o c a e ho hc hne hopens hfind
  subst ho hc
  obtain ⟨i, line, column, hle, hlt, hline, hcolumn, hcloses⟩ :=
    hopens.exists_closesAt_line hne hfind
  refine ⟨i, line, column, hle, hlt, hline, hcolumn, ?_⟩
  intro b
  constructor
  · intro hb
    exact hb.unique hcloses
  · intro hb
    rw [hb]
    exact hcloses

/-- A block with two others in it, one of which is closed on the line that opens the next, after a
line that the counting does not begin with. -/
theorem balanced_cuts_no_block_else :
    let lines := [")", "f = ( if b (", ") else (", ") ) -- f", "g = ("]
    let parens := Ending.balanced (String.singleton '(') (String.singleton ')')
    OpensAt '(' ')' (characters (lines.drop 1)) 4 ∧ parens.find lines 1 = some 4 ∧
      (∃ i, 4 = i + 1 ∧
        IsLeast {i | Settles (String.singleton '(') (String.singleton ')') lines 1 i} i) ∧
      ∃ i line column, 1 ≤ i ∧ i < 4 ∧ lines[i]? = some line ∧ column < line.toList.length ∧
        ∀ b, ClosesAt '(' ')' (characters (lines.drop 1)) 4 b ↔
          b = (characters (lines.extract 1 i)).length + column := by
  intro lines parens
  have hopens : OpensAt '(' ')' (characters (lines.drop 1)) 4 := ⟨by decide, by decide⟩
  have hfind : parens.find lines 1 = some 4 := by decide +kernel
  obtain ⟨hends, -, hcloses⟩ := balanced_cuts_no_block (String.singleton '(')
    (String.singleton ')') (by decide) lines 1
  exact ⟨hopens, hfind, (hends 4).mp hfind,
    hcloses _ _ 4 4 rfl rfl (by decide) hopens hfind⟩

end LineCut
