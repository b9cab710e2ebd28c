/-
Reading the tokens of a value.

Each token that a printer writes is read back by the reader for its kind, and the reader stops
behind it.  Where exactly it stops in bytes is of no interest, since places are for failures, so
the statements only say that there is such a place: `Gives` for a reader with a result, `Passes`
for one without.

A text in quotes and a word tell by themselves where they end.  An integer does not: it ends where
no digit follows, and it would go on if a point or the letter of an exponent did.  `Follows` says
what may stand behind a value inside a larger one, and all of it ends an integer.
-/
import LineCut.Proofs.Spelling

namespace LineCut.Json

/-! ### What readers come to -/

/-- The reader has read `x` and stands in front of the rest. -/
def Gives {α : Type} (outcome : Read α) (x : α) (rest : List Char) : Prop :=
  ∃ behind, outcome = .ok (x, ⟨rest, behind⟩)

/-- The reader stands in front of the rest. -/
def Passes (outcome : Except Failure Cursor) (rest : List Char) : Prop :=
  ∃ behind, outcome = .ok ⟨rest, behind⟩

theorem Gives.map {α β : Type} {outcome : Read α} {x : α} {rest : List Char}
    (h : Gives outcome x rest) (f : α → β) :
    Gives (outcome.map fun (x, c) => (f x, c)) (f x) rest := by
  obtain ⟨behind, rfl⟩ := h
  exact ⟨behind, rfl⟩

theorem Passes.map {β : Type} {outcome : Except Failure Cursor} {rest : List Char}
    (h : Passes outcome rest) (x : β) : Gives (outcome.map fun c => (x, c)) x rest := by
  obtain ⟨behind, rfl⟩ := h
  exact ⟨behind, rfl⟩

theorem next_cons (c : Char) (rest : List Char) (offset : Nat) :
    Cursor.next ⟨c :: rest, offset⟩ = ⟨rest, offset + c.utf8Size⟩ := rfl

/-! ### Blanks -/

theorem dropWhile_blanks {blanks rest : List Char} (h : Blanks blanks) {c : Char}
    (hc : Cursor.isBlank c = false) :
    (blanks ++ c :: rest).dropWhile Cursor.isBlank = c :: rest := by
  rw [List.dropWhile_append_of_pos h, List.dropWhile_cons_of_neg (by simp [hc])]

/-- **Blanks are skipped**, up to the first character that is none. -/
theorem skip_blanks {blanks rest : List Char} (h : Blanks blanks) {c : Char}
    (hc : Cursor.isBlank c = false) (offset : Nat) :
    Cursor.skip ⟨blanks ++ c :: rest, offset⟩ = ⟨c :: rest, offset + blanks.length⟩ := by
  have htaken : (blanks ++ c :: rest).takeWhile Cursor.isBlank = blanks := by
    rw [List.takeWhile_append_of_pos h, List.takeWhile_cons_of_neg (by simp [hc]), List.append_nil]
  rw [Cursor.skip, dropWhile_blanks h hc, htaken]

theorem skip_cons {c : Char} (hc : Cursor.isBlank c = false) (rest : List Char) (offset : Nat) :
    Cursor.skip ⟨c :: rest, offset⟩ = ⟨c :: rest, offset⟩ :=
  skip_blanks blanks_nil hc offset

/-! ### Words -/

/-- **A word is read back.** -/
theorem passes_word : ∀ (letters rest : List Char) (offset : Nat),
    Passes (word letters ⟨letters ++ rest, offset⟩) rest
  | [], _, offset => ⟨offset, rfl⟩
  | letter :: letters, rest, offset => by
    simpa [word, Cursor.next] using passes_word letters rest (offset + letter.utf8Size)

/-! ### Texts

A written text is read a character of the original at a time, however many characters it takes to
write that one.  The four digits of an escape are the only place where arithmetic comes in, and
since no more than the control characters are written like that, there are only 32 of them.
-/

theorem hexDigits_of_lt : ∀ n < 0x20,
    List.replicate (4 - (Nat.toDigits 16 n).length) '0' ++ Nat.toDigits 16 n =
      ['0', '0', Nat.digitChar (n / 16), Nat.digitChar (n % 16)] := by
  decide

theorem hexDigit?_digitChar : ∀ d < 16, hexDigit? (Nat.digitChar d) = some d := by
  decide

/-- The code of a control character is read back. -/
theorem gives_codeUnit {n : Nat} (h : n < 0x20) (rest : List Char) (offset : Nat) :
    Gives (codeUnit ⟨List.replicate (4 - (Nat.toDigits 16 n).length) '0' ++
      (Nat.toDigits 16 n ++ rest), offset⟩) n rest := by
  have hhigh := hexDigit?_digitChar (n / 16) (by omega)
  have hlow := hexDigit?_digitChar (n % 16) (by omega)
  have hzero : hexDigit? '0' = some 0 := rfl
  have hsum : n / 16 * 16 + n % 16 = n := by omega
  refine ⟨offset + 4, ?_⟩
  rw [← List.append_assoc, hexDigits_of_lt n h]
  simp [codeUnit, hhigh, hlow, hzero, hsum]

/-- A character is written as an escape that means it, or as itself if it is neither a quote, nor a
backslash, nor a control character. -/
theorem escapeChar_cases (char : Char) :
    (∃ code, escapeChar char = '\\' :: code ∧
      ∀ rest offset, Gives (escape ⟨code ++ rest, offset⟩) char rest) ∨
    (escapeChar char = [char] ∧ char ≠ '"' ∧ char ≠ '\\' ∧ ¬ char.toNat < 0x20) := by
  unfold escapeChar
  -- the seven characters that have a letter of their own
  iterate 7
    split
    · next h => exact .inl ⟨_, rfl, fun _ offset => ⟨offset + 1, by subst h; rfl⟩⟩
  split
  · next h =>
    refine .inl ⟨_, rfl, fun rest offset => ?_⟩
    obtain ⟨behind, hcode⟩ := gives_codeUnit h rest (offset + Char.utf8Size 'u')
    have hnotLow : ¬ 0xDC00 ≤ char.toNat := by omega
    have hnotHigh : ¬ 0xD800 ≤ char.toNat := by omega
    exact ⟨behind, by simp [escape, Cursor.next, hcode, hnotLow, hnotHigh]⟩
  · next hquote hslash _ _ _ _ _ hcontrol => exact .inr ⟨rfl, hquote, hslash, hcontrol⟩

/-- **A written character is read as itself**, at the cost of one piece of fuel. -/
theorem textChars_escapeChar (char : Char) (mark : Char) (fuel taken rest : List Char)
    (offset : Nat) :
    ∃ behind, textChars (mark :: fuel) taken ⟨escapeChar char ++ rest, offset⟩ =
      textChars fuel (char :: taken) ⟨rest, behind⟩ := by
  obtain ⟨code, hwritten, hmeant⟩ | ⟨hwritten, hquote, hslash, hcontrol⟩ := escapeChar_cases char
  · obtain ⟨behind, hescape⟩ := hmeant rest (offset + Char.utf8Size '\\')
    exact ⟨behind, by simp [hwritten, textChars, Cursor.next, hescape]⟩
  · refine ⟨offset + char.utf8Size, ?_⟩
    simp [hwritten, textChars, hquote, hslash, hcontrol, Cursor.next]

theorem length_le_flatMap_escapeChar (text : List Char) :
    text.length ≤ (text.flatMap escapeChar).length := by
  induction text with
  | nil => exact Nat.le_refl _
  | cons char text ih =>
    have hpos : 0 < (escapeChar char).length := by
      obtain ⟨code, hwritten, -⟩ | ⟨hwritten, -⟩ := escapeChar_cases char <;> simp [hwritten]
    rw [List.flatMap_cons, List.length_append, List.length_cons]
    omega

/-- Fuel for one more character than the text has is enough. -/
theorem gives_textChars : ∀ (text fuel taken rest : List Char) (offset : Nat),
    text.length < fuel.length →
    Gives (textChars fuel taken ⟨text.flatMap escapeChar ++ '"' :: rest, offset⟩)
      (String.ofList (taken.reverse ++ text)) rest
  | _, [], _, _, _, h => absurd h (Nat.not_lt_zero _)
  | [], _ :: _, taken, rest, offset, _ => ⟨offset + 1, by simp [textChars, Cursor.next]; rfl⟩
  | char :: text, mark :: fuel, taken, rest, offset, h => by
    obtain ⟨behind, hstep⟩ := textChars_escapeChar char mark fuel taken
      (text.flatMap escapeChar ++ '"' :: rest) offset
    have hread := gives_textChars text fuel (char :: taken) rest behind (Nat.lt_of_succ_lt_succ h)
    rw [List.flatMap_cons, List.append_assoc, hstep]
    simpa using hread

/-- **A text in quotes is read back**, once the opening quote has been taken. -/
theorem gives_textBody (text : String) (rest : List Char) (offset : Nat) :
    Gives (textBody (Cursor.next ⟨stringChars text ++ rest, offset⟩)) text rest := by
  rw [stringChars, List.cons_append, List.append_assoc]
  change Gives (textBody ⟨text.toList.flatMap escapeChar ++ '"' :: rest, offset + 1⟩) text rest
  have hfuel : text.toList.length <
      (Cursor.fuel ⟨text.toList.flatMap escapeChar ++ '"' :: rest, offset + 1⟩).length := by
    have hle := length_le_flatMap_escapeChar text.toList
    simp only [Cursor.fuel, List.length_cons, List.length_append]
    omega
  simpa [textBody] using gives_textChars text.toList _ [] rest (offset + 1) hfuel

/-! ### Integers -/

/-- What may stand behind a value: nothing, or a blank, a comma or a closing bracket. -/
def Follows (rest : List Char) : Prop :=
  ∀ c ∈ rest.head?, Cursor.isBlank c = true ∨ c = ',' ∨ c = ']' ∨ c = '\x7d'

theorem follows_nil : Follows [] := by
  simp [Follows]

/-- Blanks may stand between a value and what ends it. -/
theorem follows_append {blanks : List Char} (h : Blanks blanks) {c : Char}
    (hc : c = ',' ∨ c = ']' ∨ c = '\x7d') (rest : List Char) : Follows (blanks ++ c :: rest) := by
  cases blanks with
  | nil => simpa [Follows] using .inr hc
  | cons blank blanks => simpa [Follows] using .inl (h blank List.mem_cons_self)

/-- No integer goes on where a value ends. -/
theorem Follows.head?_ne {rest : List Char} (h : Follows rest) {d : Char}
    (hd : d.isDigit = true ∨ d = '.' ∨ d = 'e' ∨ d = 'E') : rest.head? ≠ some d := by
  intro hhead
  have hd' := h d hhead
  simp only [Cursor.isBlank, Bool.or_eq_true, beq_iff_eq] at hd'
  rcases hd' with (((rfl | rfl) | rfl) | rfl) | rfl | rfl | rfl <;> revert hd <;> decide

/-- The digits at the cursor are taken, and no more. -/
theorem digits_append {ds rest : List Char} (hds : ∀ d ∈ ds, d.isDigit = true)
    (hrest : Follows rest) (offset : Nat) :
    digits ⟨ds ++ rest, offset⟩ = (ds.map fun d => d.toNat - 48, ⟨rest, offset + ds.length⟩) := by
  have htaken : (ds ++ rest).takeWhile Char.isDigit = ds := by
    rw [List.takeWhile_append_of_pos hds]
    cases rest with
    | nil => simp
    | cons c rest =>
      have hc : ¬ c.isDigit = true := fun hc => hrest.head?_ne (.inl hc) rfl
      rw [List.takeWhile_cons_of_neg hc, List.append_nil]
  simp [digits, htaken]

theorem le_ofDigitChars (ds : List Char) (n : Nat) : n ≤ Nat.ofDigitChars 10 ds n := by
  induction ds generalizing n with
  | nil => exact Nat.le_refl n
  | cons d ds ih =>
    have hle := ih (10 * n + (d.toNat - '0'.toNat))
    rw [Nat.ofDigitChars_cons]
    omega

/-- Digits are all taken where their number fits 64 bits. -/
theorem gather_map (ds : List Char) (n : Nat) (h : Nat.ofDigitChars 10 ds n < 0x10000000000000000) :
    gather n (ds.map fun d => d.toNat - 48) = (Nat.ofDigitChars 10 ds n, ds.length) := by
  induction ds generalizing n with
  | nil => rfl
  | cons d ds ih =>
    rw [Nat.ofDigitChars_cons] at h ⊢
    have hfits : 10 * n + (d.toNat - 48) < 0x10000000000000000 :=
      Nat.lt_of_le_of_lt (le_ofDigitChars ds _) h
    have hrest := ih (10 * n + (d.toNat - 48)) h
    simp only [List.map_cons, gather, if_pos hfits, hrest, List.length_cons]
    rfl

/-- A number but zero does not begin with a zero. -/
theorem toDigits_eq_cons (n : Nat) (h : 0 < n) :
    ∃ d ds, Nat.toDigits 10 n = d :: ds ∧ d.toNat - 48 ≠ 0 := by
  induction n using Nat.strongRecOn with
  | ind n ih =>
    by_cases hlt : n < 10
    · refine ⟨Nat.digitChar n, [], Nat.toDigits_of_lt_base hlt, ?_⟩
      have hdigit : ∀ d < 10, 0 < d → (Nat.digitChar d).toNat - 48 ≠ 0 := by decide
      exact hdigit n hlt h
    · obtain ⟨d, ds, heq, hd⟩ := ih (n / 10) (by omega) (by omega)
      refine ⟨d, ds ++ [Nat.digitChar (n % 10)], ?_, hd⟩
      rw [Nat.toDigits_of_base_le (by decide) (by omega), heq, List.cons_append]

/-- **Decimal digits are read back**, with the sign that has been taken before them. -/
theorem gives_unsigned (negative : Bool) {n : Nat} (hn : n < 0x10000000000000000)
    {rest : List Char} (hrest : Follows rest) (offset : Nat) :
    Gives (unsigned negative ⟨Nat.toDigits 10 n ++ rest, offset⟩) (integer negative n) rest := by
  have hds : ∀ d ∈ Nat.toDigits 10 n, d.isDigit = true :=
    fun d hd => Nat.isDigit_of_mem_toDigits (by decide) (by decide) hd
  have hvalue : Nat.ofDigitChars 10 (Nat.toDigits 10 n) 0 = n := Nat.ofDigitChars_ten_toDigits
  have hwhole : ∀ kept behind, wholePart negative kept 0 ⟨rest, behind⟩ =
      .ok (integer negative kept, ⟨rest, behind⟩) := by
    intro kept behind
    simp [wholePart, Cursor.look, hrest.head?_ne]
  refine ⟨offset + (Nat.toDigits 10 n).length, ?_⟩
  rcases Nat.eq_zero_or_pos n with rfl | hpos
  · rw [unsigned, digits_append hds hrest]
    exact hwhole 0 _
  · obtain ⟨d, ds, heq, hd⟩ := toDigits_eq_cons n hpos
    obtain ⟨first, hfirst⟩ := Nat.exists_eq_succ_of_ne_zero hd
    have hgather := gather_map (Nat.toDigits 10 n) 0 (by rw [hvalue]; exact hn)
    rw [hvalue, heq, List.map_cons, hfirst] at hgather
    rw [unsigned, digits_append hds hrest, heq, List.map_cons, hfirst]
    simp only [hgather, List.length_cons, List.length_map, Nat.sub_self]
    exact hwhole n _

theorem ne_of_isDigit {c d : Char} (hc : c.isDigit = true) (hd : d.isDigit = false) : c ≠ d := by
  rintro rfl
  exact absurd hc (by simp [hd])

theorem toDigits_append_head (n : Nat) (rest : List Char) :
    ∃ d more, Nat.toDigits 10 n ++ rest = d :: more ∧ d.isDigit = true := by
  obtain ⟨d, ds, heq⟩ := List.exists_cons_of_ne_nil (Nat.toDigits_ne_nil (n := n) (b := 10))
  have hd : d ∈ Nat.toDigits 10 n := heq ▸ List.mem_cons_self
  exact ⟨d, ds ++ rest, by rw [heq, List.cons_append],
    Nat.isDigit_of_mem_toDigits (by decide) (by decide) hd⟩

/-- **An integer of 64 bits is read back.** -/
theorem gives_number {n : Int} (hlow : -0x8000000000000000 ≤ n) (hhigh : n < 0x10000000000000000)
    {rest : List Char} (hrest : Follows rest) (offset : Nat) :
    Gives (number ⟨intChars n ++ rest, offset⟩) (.int n) rest := by
  cases n with
  | ofNat m =>
    have hm : (m : Int) < 0x10000000000000000 := hhigh
    have hdigits := gives_unsigned false (show m < 0x10000000000000000 by omega) hrest offset
    obtain ⟨d, more, heq, hd⟩ := toDigits_append_head m rest
    have hsign : (some d == some '-') = false := by
      simpa using ne_of_isDigit hd (d := '-') rfl
    rw [heq] at hdigits
    rw [intChars, heq, number, Cursor.look, List.head?_cons, hsign]
    exact hdigits
  | negSucc m =>
    have hm : m + 1 ≤ 0x8000000000000000 := by omega
    have hdigits :=
      gives_unsigned true (show m + 1 < 0x10000000000000000 by omega) hrest (offset + 1)
    have hvalue : integer true (m + 1) = .int (.negSucc m) := by
      simp [integer, Nat.not_lt.mpr hm, Int.negSucc_eq]
    rw [hvalue] at hdigits
    exact hdigits

end LineCut.Json
