/-
Texts whose lines all end alike.

A document keeps its lines without their terminators and writes them all with the same one, so a
text that mixes terminators does not come back as it was.  A text is `Uniform` if it does not mix
them: its line feeds all have a carriage return in front of them, or none has.  Of such a text the
document loses nothing.  Cut the text itself behind every line feed, put the missing terminator
behind the last piece, and the pieces are the document's lines with the document's terminator
behind each.

Reading goes from the left with the open line in hand, last character first.  The invariant that
carries the induction is that the characters in hand hold no line feed, and that the text is
uniform counted from where the open line starts.
-/
import LineCut.Document

namespace LineCut.Document

/-! ### Uniform texts -/

/-- Every line feed of the text belongs to this terminator. -/
def EndsBy (t : Terminator) (text : List Char) : Prop :=
  ∀ before after, text = before ++ '\n' :: after → (before.getLast? = some '\r' ↔ t = .crlf)

/-- No line feed has a carriage return in front of it, or every line feed has one. -/
def Uniform (text : List Char) : Prop :=
  ∃ t, EndsBy t text

/-- A text cut behind each line feed. -/
def chunks : List Char → List (List Char)
  | [] => []
  | c :: rest =>
    if c = '\n' then [c] :: chunks rest
    else
      match chunks rest with
      | [] => [[c]]
      | chunk :: more => (c :: chunk) :: more

/-- A piece of a text with a terminator behind it, if it has none. -/
def complete (t : Terminator) (chunk : List Char) : List Char :=
  if chunk.getLast? = some '\n' then chunk else chunk ++ t.chars

variable {t : Terminator} {text openLine : List Char}

/-- What stands behind a line feed ends as the whole does: the line feed is no carriage return. -/
theorem EndsBy.of_append {before : List Char} (h : EndsBy t (before ++ '\n' :: text)) :
    EndsBy t text := by
  rintro front after rfl
  have hwhole := h (before ++ '\n' :: front) after (by simp)
  rw [← hwhole]
  cases front with
  | nil => simp
  | cons c rest => simp [List.getLast?_append]

/-- All terminators of a text that ends by one are that one. -/
theorem EndsBy.eq_of_mem_terminators (before : List Char) {cr : Bool} {s : Terminator}
    (h : EndsBy t (before ++ text)) (hcr : cr = (before.getLast? == some '\r'))
    (hmem : s ∈ terminators cr text) : s = t := by
  induction text generalizing before cr with
  | nil => simp [terminators] at hmem
  | cons c rest ih =>
      unfold terminators at hmem
      by_cases hc : c = '\n'
      · subst hc
        simp only [beq_self_eq_true, if_true, List.mem_cons] at hmem
        rcases hmem with rfl | hrest
        · have hfeed := h before rest rfl
          subst hcr
          cases t <;> simp_all
        · exact ih (before ++ ['\n']) (by simpa using h) (by simp) hrest
      · simp only [beq_iff_eq, hc, if_false] at hmem
        exact ih (before ++ [c]) (by simpa using h) (by simp) hmem

/-- A text whose terminators are all the same ends by it.  `before` is what has been read, of which
only the last character counts. -/
theorem endsBy_of_forall_terminators (before : List Char) {cr : Bool}
    (hcr : cr = (before.getLast? == some '\r')) (h : ∀ s ∈ terminators cr text, s = t) :
    ∀ front after, text = front ++ '\n' :: after →
      ((before ++ front).getLast? = some '\r' ↔ t = .crlf) := by
  induction text generalizing before cr with
  | nil => simp
  | cons c rest ih =>
      intro front after htext
      unfold terminators at h
      by_cases hc : c = '\n'
      · subst hc
        simp only [beq_self_eq_true, if_true, List.mem_cons, forall_eq_or_imp] at h
        cases front with
        | nil =>
            subst hcr
            rw [List.append_nil, ← h.1]
            by_cases hlast : before.getLast? = some '\r' <;> simp [hlast]
        | cons d front =>
            obtain ⟨rfl, hrest⟩ := List.cons.inj htext
            have := ih (before ++ ['\n']) (by simp) h.2 front after hrest
            simpa using this
      · simp only [beq_iff_eq, hc, if_false] at h
        cases front with
        | nil =>
            obtain ⟨rfl, -⟩ := List.cons.inj htext
            exact absurd rfl hc
        | cons d front =>
            obtain ⟨rfl, hrest⟩ := List.cons.inj htext
            have := ih (before ++ [c]) (by simp) h front after hrest
            simpa using this

theorem endsBy_iff : EndsBy t text ↔ ∀ s ∈ terminators false text, s = t := by
  constructor
  · intro h s hs
    exact h.eq_of_mem_terminators [] (by simp) hs
  · intro h front after htext
    exact endsBy_of_forall_terminators [] (by simp) h front after htext

instance (t : Terminator) (text : List Char) : Decidable (EndsBy t text) :=
  decidable_of_iff _ endsBy_iff.symm

theorem terminators_ne_nil (cr : Bool) (h : '\n' ∈ text) : terminators cr text ≠ [] := by
  induction text generalizing cr with
  | nil => simp at h
  | cons c rest ih =>
      unfold terminators
      by_cases hc : c = '\n'
      · simp [hc]
      · have hrest : '\n' ∈ rest := by
          rcases List.mem_cons.mp h with heq | hmem
          · exact absurd heq.symm hc
          · exact hmem
        simp only [beq_iff_eq, hc, if_false]
        exact ih _ hrest

/-- Up to a line feed nothing is remembered but whether the last character is a carriage return. -/
theorem terminators_append {front : List Char} (h : '\n' ∉ front) (cr : Bool) (text : List Char) :
    terminators cr (front ++ text) =
      terminators (front.getLast?.elim cr (· == '\r')) text := by
  induction front generalizing cr with
  | nil => rfl
  | cons c rest ih =>
      have hc : c ≠ '\n' := fun heq => h (heq ▸ List.mem_cons_self)
      have hrest : '\n' ∉ rest := fun hmem => h (List.mem_cons_of_mem _ hmem)
      have hstep : terminators cr (c :: (rest ++ text))
          = terminators (c == '\r') (rest ++ text) := by
        simp [terminators, hc]
      rw [List.cons_append, hstep, ih hrest]
      cases rest with
      | nil => rfl
      | cons d more => simp [List.getLast?_cons]

/-- The first terminator of a text. -/
theorem terminators_terminated {t : Terminator} {line : List Char} (hfeed : '\n' ∉ line)
    (hwhole : t = .lf → line.getLast? ≠ some '\r') (text : List Char) :
    terminators false (line ++ t.chars ++ text) =
      t :: terminators false text := by
  cases t with
  | lf =>
      have hplain : line.getLast?.elim false (· == '\r') = false := by
        cases hlast : line.getLast? with
        | none => rfl
        | some c =>
            have hne := hwhole rfl
            rw [hlast] at hne
            simpa using hne
      rw [List.append_assoc, terminators_append hfeed, hplain]
      rfl
  | crlf =>
      have hreturn : '\n' ∉ line ++ ['\r'] := by simpa using hfeed
      have hsplit : line ++ Terminator.crlf.chars ++ text = (line ++ ['\r']) ++ '\n' :: text := by
        simp [Terminator.chars]
      rw [hsplit, terminators_append hreturn]
      simp [terminators]

/-- If all terminators of a text are the same, that is the one that most lines have. -/
theorem majority_of_forall (h : ∀ s ∈ terminators false text, s = t)
    (hne : terminators false text ≠ []) : majority text = t := by
  have hreplicate : terminators false text = List.replicate (terminators false text).length t :=
    List.eq_replicate_iff.mpr ⟨rfl, h⟩
  have hpos : 0 < (terminators false text).length := List.length_pos_iff.mpr hne
  simp only [majority]
  rw [hreplicate]
  cases t with
  | lf => simp [List.count_replicate]
  | crlf => simp [List.count_replicate, hpos]

/-- **A uniform text ends by the terminator that its document remembers.** -/
theorem Uniform.endsBy_majority (h : Uniform text) : EndsBy (majority text) text := by
  obtain ⟨t, ht⟩ := h
  intro before after htext
  have hfeed : '\n' ∈ text := by simp [htext]
  rw [majority_of_forall (endsBy_iff.mp ht) (terminators_ne_nil false hfeed)]
  exact ht before after htext

/-! ### Cutting and reading -/

theorem chunks_of_not_mem (h : '\n' ∉ text) : chunks text = if text = [] then [] else [text] := by
  induction text with
  | nil => rfl
  | cons c rest ih =>
      have hc : c ≠ '\n' := fun heq => h (heq ▸ List.mem_cons_self)
      have hrest : '\n' ∉ rest := fun hmem => h (List.mem_cons_of_mem _ hmem)
      rw [chunks, if_neg hc, ih hrest]
      cases rest with
      | nil => rfl
      | cons d more => rfl

theorem chunks_append_feed {front : List Char} (h : '\n' ∉ front) :
    chunks (front ++ '\n' :: text) = (front ++ ['\n']) :: chunks text := by
  induction front with
  | nil => simp [chunks]
  | cons c rest ih =>
      have hc : c ≠ '\n' := fun heq => h (heq ▸ List.mem_cons_self)
      have hrest : '\n' ∉ rest := fun hmem => h (List.mem_cons_of_mem _ hmem)
      rw [List.cons_append, chunks, if_neg hc, ih hrest]
      rfl

/-- Where the text ends by a terminator, the line that closes has lost just that. -/
theorem closeLine_append (h : EndsBy t (openLine.reverse ++ '\n' :: text)) :
    closeLine openLine ++ t.chars = openLine.reverse ++ ['\n'] := by
  have hfeed := h openLine.reverse text rfl
  rw [List.getLast?_reverse] at hfeed
  unfold closeLine
  split
  · rename_i rest
    have ht : t = .crlf := hfeed.mp rfl
    simp [ht, Terminator.chars]
  · rename_i hnot
    have ht : t = .lf := by
      cases t with
      | lf => rfl
      | crlf =>
          have hhead := hfeed.mpr rfl
          cases openLine with
          | nil => simp at hhead
          | cons c rest =>
              simp only [List.head?_cons, Option.some.injEq] at hhead
              exact absurd (by rw [hhead]) (hnot rest)
    simp [ht, Terminator.chars]

/-- **The pieces of a text are its lines with the terminator behind each.**  The induction is on
what is still unread; the open line holds no line feed. -/
theorem complete_chunks (openLine : List Char) (hopen : '\n' ∉ openLine)
    (h : EndsBy t (openLine.reverse ++ text)) :
    (chunks (openLine.reverse ++ text)).map (complete t) =
      (splitLines openLine text).map (· ++ t.chars) := by
  induction text generalizing openLine with
  | nil =>
      have hrev : '\n' ∉ openLine.reverse := by simpa using hopen
      rw [List.append_nil, chunks_of_not_mem hrev, splitLines]
      by_cases hnil : openLine = []
      · simp [hnil]
      · have hlast : openLine.reverse.getLast? ≠ some '\n' := by
          intro hl
          exact hrev (List.mem_of_getLast? hl)
        have hcomplete : complete t openLine.reverse = openLine.reverse ++ t.chars :=
          if_neg hlast
        simp [hnil, hcomplete]
  | cons c rest ih =>
      by_cases hc : c = '\n'
      · subst hc
        have hrev : '\n' ∉ openLine.reverse := by simpa using hopen
        have hrest := ih [] (by simp) (by simpa using h.of_append)
        have hclosed : complete t (openLine.reverse ++ ['\n']) = closeLine openLine ++ t.chars := by
          rw [closeLine_append h]
          simp [complete]
        rw [chunks_append_feed hrev, List.map_cons, hclosed, splitLines]
        simpa using hrest
      · have hstep := ih (c :: openLine) (by simp [Ne.symm hc, hopen]) (by simpa using h)
        rw [splitLines]
        simpa [hc] using hstep

/-! ### Writing -/

/-- Joined lines with one more terminator behind them have one behind each. -/
theorem join_append {lines : List (List Char)} (h : lines ≠ []) :
    join t lines ++ t.chars = lines.flatMap (· ++ t.chars) := by
  induction lines with
  | nil => exact absurd rfl h
  | cons line rest ih =>
      cases rest with
      | nil => simp [join]
      | cons next more =>
          have hrest := ih (by simp)
          rw [join, List.flatMap_cons, ← hrest]
          · simp [List.append_assoc]
          · simp

/-- A written document with the terminator behind its last line, if that has none. -/
theorem renderChars_append (doc : Document) :
    doc.renderChars ++ (if doc.trailing = false ∧ doc.lines ≠ [] then doc.ending.chars else []) =
      doc.lines.flatMap fun line => line.toList ++ doc.ending.chars := by
  by_cases hnil : doc.lines = []
  · simp [renderChars, hnil]
  · have hne : doc.lines.map String.toList ≠ [] := by simpa using hnil
    have hjoin := join_append (t := doc.ending) hne
    rw [List.flatMap_map] at hjoin
    rw [← hjoin]
    cases htrailing : doc.trailing with
    | true => simp [renderChars, hnil, htrailing]
    | false => simp [renderChars, hnil, htrailing]

end LineCut.Document
