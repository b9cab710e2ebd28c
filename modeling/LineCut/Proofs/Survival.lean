/-
The documents that are read back as they were.

Editing puts any lines into a document, and not every document has a text that it could have been
read from.  A line may hold a line feed, or end in a carriage return that a plain terminator takes;
an empty line behind the last terminator is not there to be read; a document with carriage returns
in its terminators forgets them if it has none to write.  Whether a document survives is a matter of
these four, and of each by itself.

That the four are enough is seen from the layout in which the document is written: without the
first two it is proper, so it is what is read.  That each is needed is less plain, since one fault
might make up for another.  It does not.  If the document comes back, then the proper layout of its
text and its own have the same pieces, and the same text, so the same terminators, too: the first
place where they differ would be seen in the text.
-/
import LineCut.Proofs.Layout

namespace LineCut

namespace Layout

/-- **If replacing the terminators does not change the text, it changes nothing.**  The induction is
on the pieces; what stands behind a piece tells its terminator, since the two begin differently. -/
theorem endedBy_eq_of_text {t : Terminator} {layout : Layout}
    (h : (layout.endedBy t).text = layout.text) : layout.endedBy t = layout := by
  obtain ⟨pieces, rest⟩ := layout
  induction pieces with
  | nil => rfl
  | cons p more ih =>
      obtain ⟨piece, kind⟩ := p
      have hbehind :
          t.chars ++ text (endedBy t ⟨more, rest⟩) = kind.chars ++ text ⟨more, rest⟩ := by
        have hboth := (text_cons (piece, t) _ rest).symm.trans (h.trans (text_cons _ more rest))
        rw [List.append_assoc, List.append_assoc] at hboth
        exact List.append_cancel_left hboth
      have hkind : t = kind := by
        cases t <;> cases kind <;> simp [Terminator.chars] at hbehind ⊢
      subst hkind
      have hmore := ih (List.append_cancel_left hbehind)
      have hpieces := congrArg Layout.pieces hmore
      simp only [endedBy] at hpieces ⊢
      rw [List.map_cons, hpieces]

end Layout

namespace Document

variable {doc : Document}

/-! ### The layout of a document -/

/-- What holds of all lines holds of those that are terminated and of what stands behind them. -/
theorem forall_lines_iff (doc : Document) {P : List Char → Prop} (hnil : P []) :
    (∀ line ∈ doc.lines, P line.toList) ↔
      (∀ line ∈ doc.terminatedLines, P line.toList) ∧ P doc.openEnd := by
  obtain ⟨lines, ending, trailing⟩ := doc
  cases trailing with
  | true => simp [terminatedLines, openEnd, hnil]
  | false =>
      rcases List.eq_nil_or_concat lines with rfl | ⟨front, last, rfl⟩
      · simp [terminatedLines, openEnd, hnil]
      · simp [terminatedLines, openEnd, or_imp, forall_and]

/-- **When the layout of a document is proper.** -/
theorem proper_layout_iff :
    doc.layout.Proper ↔
      (∀ line ∈ doc.lines, '\n' ∉ line.toList) ∧
        (doc.ending = .lf → ∀ line ∈ doc.terminatedLines, line.toList.getLast? ≠ some '\r') := by
  rw [forall_lines_iff doc (P := fun line => '\n' ∉ line) (by simp)]
  constructor
  · intro h
    refine ⟨⟨fun line hline => ?_, h.restFeedless⟩, fun hlf line hline => ?_⟩
    · exact h.feedless _ (List.mem_map_of_mem hline)
    · exact h.whole _ (List.mem_map_of_mem hline) hlf
  · intro ⟨⟨hfeed, hrest⟩, hwhole⟩
    refine ⟨?_, ?_, hrest⟩
    · intro p hp
      obtain ⟨line, hline, rfl⟩ := List.mem_map.mp hp
      exact hfeed line hline
    · intro p hp hlf
      obtain ⟨line, hline, rfl⟩ := List.mem_map.mp hp
      exact hwhole hlf line hline

/-- **A document that comes back has a proper layout**: it is that of its text. -/
theorem proper_layout_of_parse_render (h : parse doc.render = doc) : doc.layout.Proper := by
  obtain ⟨layout, hproper, htext⟩ := Layout.exists_proper doc.render.toList
  have hown := layout_parse hproper htext
  rw [h] at hown
  have hsame : (layout.endedBy doc.ending).text = layout.text := by
    rw [← hown, text_layout, htext, toList_render]
  rw [hown, Layout.endedBy_eq_of_text hsame]
  exact hproper

/-- The lines are those of the layout unless the last one is lost. -/
theorem lines_layout_iff :
    doc.layout.lines.map String.ofList = doc.lines ↔
      (doc.trailing = false → doc.lines.getLast? ≠ some "") := by
  obtain ⟨lines, ending, trailing⟩ := doc
  cases trailing with
  | true => simp [layout, Layout.lines, terminatedLines, openEnd, Function.comp_def]
  | false =>
      rcases List.eq_nil_or_concat lines with rfl | ⟨front, last, rfl⟩
      · simp [layout, Layout.lines, terminatedLines, openEnd]
      · by_cases hlast : last = ""
        · simp [layout, Layout.lines, terminatedLines, openEnd, Function.comp_def, hlast]
        · simp [layout, Layout.lines, terminatedLines, openEnd, Function.comp_def, hlast]

/-- The terminator is that of the layout unless it is forgotten. -/
theorem ending_layout_iff :
    (if doc.layout.kinds.count .lf < doc.layout.kinds.count .crlf then .crlf else .lf) =
        doc.ending ↔
      (doc.ending = .crlf → doc.terminatedLines ≠ []) := by
  have hkinds : doc.layout.kinds = List.replicate doc.terminatedLines.length doc.ending := by
    simp [layout, Layout.kinds, Function.comp_def, List.map_const']
  rw [hkinds]
  cases hending : doc.ending with
  | lf => simp [List.count_replicate]
  | crlf => simp [List.count_replicate, List.length_pos_iff]

/-- Nothing stands behind the last terminator exactly if the last line is terminated, unless it is
lost or there is none. -/
theorem trailing_layout (hne : doc.lines ≠ [])
    (hlast : doc.trailing = false → doc.lines.getLast? ≠ some "") :
    decide (doc.layout.rest = [] ∧ doc.layout.pieces ≠ []) = doc.trailing := by
  obtain ⟨lines, ending, trailing⟩ := doc
  cases trailing with
  | true => simpa [layout, terminatedLines, openEnd] using hne
  | false =>
      rcases List.eq_nil_or_concat lines with rfl | ⟨front, last, rfl⟩
      · exact absurd rfl hne
      · have hfull : last ≠ "" := by simpa using hlast
        simp [layout, openEnd, hfull]

/-- There is a terminator to write if there are two lines, or one that is terminated. -/
theorem terminatedLines_ne_nil_iff (hne : doc.lines ≠ []) :
    doc.terminatedLines ≠ [] ↔ 2 ≤ doc.lines.length ∨ doc.trailing = true := by
  obtain ⟨lines, ending, trailing⟩ := doc
  cases trailing with
  | true => simpa [terminatedLines] using hne
  | false =>
      rw [← List.length_pos_iff]
      simp only [terminatedLines, Bool.false_eq_true, if_false, List.length_dropLast, or_false]
      omega

/--
**Which documents are read back as they were written.**  Without lines only the document of the
empty text is.  With lines a document is, exactly if no line holds a line feed, no line before a
plain terminator ends in a carriage return, the last line is not empty if it is not terminated,
and there is a terminator to tell from if it is one with a carriage return.
-/
theorem parse_render_eq_self_iff (doc : Document) :
    parse doc.render = doc ↔
      (doc.lines = [] ∧ doc.ending = .lf ∧ doc.trailing = false) ∨
        (doc.lines ≠ [] ∧
          (∀ line ∈ doc.lines, '\n' ∉ line.toList) ∧
          (doc.ending = .lf →
            ∀ line ∈ doc.terminatedLines, line.toList.getLast? ≠ some '\r') ∧
          (doc.trailing = false → doc.lines.getLast? ≠ some "") ∧
          (doc.ending = .crlf → 2 ≤ doc.lines.length ∨ doc.trailing = true)) := by
  have htext : doc.layout.text = doc.render.toList :=
    (text_layout doc).trans (toList_render doc).symm
  by_cases hnil : doc.lines = []
  · have hempty : parse doc.render = ⟨[], .lf, false⟩ := by
      rw [render_of_lines_nil hnil]
      rfl
    rw [hempty]
    constructor
    · intro h
      subst h
      exact Or.inl ⟨rfl, rfl, rfl⟩
    · rintro (⟨-, hlf, hplain⟩ | ⟨hne, -⟩)
      · rw [← hnil, ← hlf, ← hplain]
      · exact absurd hnil hne
  · constructor
    · intro h
      have hproper := proper_layout_of_parse_render h
      have hread := hproper.parse_text htext
      rw [h] at hread
      obtain ⟨hfeed, hwhole⟩ := proper_layout_iff.mp hproper
      refine Or.inr ⟨hnil, hfeed, hwhole, ?_, ?_⟩
      · exact lines_layout_iff.mp (congrArg Document.lines hread).symm
      · intro hcrlf
        rw [← terminatedLines_ne_nil_iff hnil]
        exact ending_layout_iff.mp (congrArg Document.ending hread).symm hcrlf
    · rintro (⟨hempty, -⟩ | ⟨-, hfeed, hwhole, hlast, hterminator⟩)
      · exact absurd hempty hnil
      · have hproper := proper_layout_iff.mpr ⟨hfeed, hwhole⟩
        have hending := ending_layout_iff.mpr fun hcrlf =>
          (terminatedLines_ne_nil_iff hnil).mpr (hterminator hcrlf)
        rw [hproper.parse_text htext, lines_layout_iff.mpr hlast, hending,
          trailing_layout hnil hlast]

end Document

end LineCut
