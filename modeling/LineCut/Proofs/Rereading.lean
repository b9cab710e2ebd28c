/-
What a written document is read as.

Writing puts a terminator behind each line and knows nothing of what is in the line; reading cuts at
every line feed and takes a carriage return in front of it for a part of the terminator.  So the
text is cut where the lines ended, and perhaps in other places, too.  Since every terminator ends in
a line feed, each line is read by itself: `lines_parse_render` says that the lines read back are
what each line with the terminator behind it is read as, one after the other.

A line comes back as it was unless it `Breaks`.  There are two ways to break.  A line feed in the
line cuts it, and a carriage return at its end goes with the terminator if that is a plain line
feed.  With a carriage return of its own the terminator leaves the other one alone.
-/
import LineCut.Document

namespace LineCut.Document

/-! ### Reading piece by piece -/

variable {t : Terminator} {line openLine : List Char}

/-- **What comes behind a line feed is read by itself.** -/
theorem splitLines_append_feed (openLine front text : List Char) :
    splitLines openLine (front ++ '\n' :: text) =
      splitLines openLine (front ++ ['\n']) ++ splitLines [] text := by
  induction front generalizing openLine with
  | nil => simp [splitLines]
  | cons c rest ih =>
      simp only [List.cons_append, splitLines]
      split
      · rw [ih, List.cons_append]
      · exact ih _

/-- A terminator ends in a line feed, so what comes behind it is read by itself, too. -/
theorem splitLines_append_chars (t : Terminator) (line text : List Char) :
    splitLines [] (line ++ t.chars ++ text) =
      splitLines [] (line ++ t.chars) ++ splitLines [] text := by
  cases t with
  | lf => simpa [Terminator.chars] using splitLines_append_feed [] line text
  | crlf => simpa [Terminator.chars] using splitLines_append_feed [] (line ++ ['\r']) text

/-- Without a line feed the text only goes on with the open line. -/
theorem splitLines_openLine (h : '\n' ∉ line) (openLine text : List Char) :
    splitLines openLine (line ++ text) = splitLines (line.reverse ++ openLine) text := by
  induction line generalizing openLine with
  | nil => rfl
  | cons c rest ih =>
      have hc : c ≠ '\n' := fun heq => h (heq ▸ List.mem_cons_self)
      have hrest : '\n' ∉ rest := fun hmem => h (List.mem_cons_of_mem _ hmem)
      simp [splitLines, hc, ih hrest]

/-- A line that does not end in a carriage return is closed as it is. -/
theorem closeLine_reverse (h : line.getLast? ≠ some '\r') : closeLine line.reverse = line := by
  unfold closeLine
  split
  · rename_i rest hrest
    have hlast : line.getLast? = some '\r' := by
      rw [← List.head?_reverse, hrest]
      rfl
    exact absurd hlast h
  · exact List.reverse_reverse line

/-- **A line with a terminator behind it is read as it was**, if it holds no line feed and a plain
line feed takes nothing from it. -/
theorem splitLines_terminated (hfeed : '\n' ∉ line)
    (hreturn : t = .lf → line.getLast? ≠ some '\r') : splitLines [] (line ++ t.chars) = [line] := by
  rw [splitLines_openLine hfeed]
  cases t with
  | lf => simp [Terminator.chars, splitLines, closeLine_reverse (hreturn rfl)]
  | crlf => simp [Terminator.chars, splitLines, closeLine]

/-! ### Line by line -/

/-- The lines, each with what is written behind it: a terminator, but none behind the last line
if that is not terminated. -/
def withTails (t : Terminator) (trailing : Bool) : List String → List (String × List Char)
  | [] => []
  | [line] => [(line, if trailing then t.chars else [])]
  | line :: rest => (line, t.chars) :: withTails t trailing rest

/-- The lines of a document, each with what is written behind it. -/
def written (doc : Document) : List (String × List Char) :=
  withTails doc.ending doc.trailing doc.lines

/-- What a line with its tail is read as. -/
def readAs (p : String × List Char) : List String :=
  (splitLines [] (p.1.toList ++ p.2)).map String.ofList

/-- What is written is the lines with their tails. -/
theorem renderChars_eq_flatMap (doc : Document) :
    doc.renderChars = doc.written.flatMap fun p => p.1.toList ++ p.2 := by
  have hjoin : ∀ lines : List String, lines ≠ [] →
      join doc.ending (lines.map String.toList) ++ (if doc.trailing then doc.ending.chars else [])
        = (withTails doc.ending doc.trailing lines).flatMap fun p => p.1.toList ++ p.2 := by
    intro lines hne
    induction lines with
    | nil => exact absurd rfl hne
    | cons line rest ih =>
        cases rest with
        | nil => simp [join, withTails]
        | cons next more => simp [join, withTails, ← ih (by simp)]
  by_cases hnil : doc.lines = []
  · simp [renderChars, written, withTails, hnil]
  · have hempty : doc.lines.isEmpty = false := by simpa using hnil
    rw [renderChars, hempty, if_neg Bool.false_ne_true, hjoin doc.lines hnil, written]

/-- **The lines read back are what each line with its tail is read as.**  The induction is on the
lines; all but the last have a terminator behind them. -/
theorem lines_parse_render (doc : Document) :
    (parse doc.render).lines = doc.written.flatMap readAs := by
  have hread : ∀ lines : List String,
      splitLines [] ((withTails doc.ending doc.trailing lines).flatMap fun p => p.1.toList ++ p.2)
        = (withTails doc.ending doc.trailing lines).flatMap fun p =>
            splitLines [] (p.1.toList ++ p.2) := by
    intro lines
    induction lines with
    | nil => rfl
    | cons line rest ih =>
        cases rest with
        | nil => simp [withTails]
        | cons next more =>
            rw [withTails, List.flatMap_cons, List.flatMap_cons, splitLines_append_chars, ih]
            simp
  rw [parse, toList_render, renderChars_eq_flatMap, written, hread, List.map_flatMap]
  rfl

/-! ### Lines that come back as they were -/

/-- A line that does not come back as it was written: there is a line feed in it, or a plain line
feed takes the carriage return at its end. -/
def Breaks (p : String × List Char) : Prop :=
  '\n' ∈ p.1.toList ∨ p.2 = Terminator.lf.chars ∧ p.1.toList.getLast? = some '\r'

instance (p : String × List Char) : Decidable (Breaks p) :=
  inferInstanceAs (Decidable (_ ∨ _ ∧ _))

/-- Behind a line there is a terminator or nothing. -/
theorem mem_withTails {trailing : Bool} {lines : List String} {p : String × List Char}
    (h : p ∈ withTails t trailing lines) : p.1 ∈ lines ∧ (p.2 = t.chars ∨ p.2 = []) := by
  induction lines with
  | nil => simp [withTails] at h
  | cons line rest ih =>
      cases rest with
      | nil =>
          rw [withTails, List.mem_singleton] at h
          subst h
          cases trailing <;> simp
      | cons next more =>
          rw [withTails, List.mem_cons] at h
          · rcases h with rfl | hlater
            · simp
            · exact ⟨List.mem_cons_of_mem _ (ih hlater).1, (ih hlater).2⟩
          · simp

/-- **A line that does not break is read as it was written**, or, if there is nothing in it and
nothing behind it, not at all. -/
theorem eq_of_mem_readAs {p : String × List Char} (htail : p.2 = t.chars ∨ p.2 = [])
    (h : ¬ Breaks p) {line : String} (hline : line ∈ readAs p) : line = p.1 := by
  simp only [Breaks, not_or, not_and] at h
  obtain ⟨hfeed, hreturn⟩ := h
  have hread : ∀ chars ∈ splitLines [] (p.1.toList ++ p.2), chars = p.1.toList := by
    rcases htail with hterminated | hnothing
    · have hwhole : t = .lf → p.1.toList.getLast? ≠ some '\r' :=
        fun hlf => hreturn (by rw [hterminated, hlf])
      rw [hterminated, splitLines_terminated hfeed hwhole]
      simp
    · rw [hnothing, splitLines_openLine hfeed, splitLines]
      split <;> simp
  obtain ⟨chars, hchars, rfl⟩ := List.mem_map.mp hline
  rw [hread chars hchars, String.ofList_toList]

/-- **A line that is read back was there, or comes of one that breaks.** -/
theorem mem_lines_parse_render {doc : Document} {line : String}
    (h : line ∈ (parse doc.render).lines) :
    line ∈ doc.lines ∨ ∃ p ∈ doc.written, Breaks p ∧ line ∈ readAs p := by
  rw [lines_parse_render, List.mem_flatMap] at h
  obtain ⟨p, hp, hread⟩ := h
  by_cases hbreaks : Breaks p
  · exact Or.inr ⟨p, hp, hbreaks, hread⟩
  · obtain ⟨hmem, htail⟩ := mem_withTails hp
    rw [eq_of_mem_readAs htail hbreaks hread]
    exact Or.inl hmem

end LineCut.Document
