/-
Normalising a text, and normalising it again.

Reading a text and writing it gives all its lines the terminator that most of them had.  One expects
of the text that is written that it has that terminator throughout, and that reading and writing it
once more makes no difference.  Nearly always this is so.  It fails in one place.  A carriage return
in front of a terminator that has one of its own is an ordinary character of its line.  If the plain
terminator is written instead, nothing stands between that character and the line feed any more, and
the two are read as a terminator of the other kind.  Such a text `Exposes` a carriage return: it has
a line feed with two of them in front, and it is written with plain terminators.

What each of the expectations comes to is worked out on the layout of the text.  If no carriage
return is exposed the layout with one terminator is proper, and so it is the one that is read again;
then everything comes back.  For the other direction no single thing that comes back need be looked
at closely: the terminator and the end of the document are kept in any case, so lines that come back
make the whole document come back, and a rendering that comes back has one terminator throughout.
-/
import LineCut.Proofs.Survival

namespace LineCut

namespace Layout

variable {layout : Layout}

/-! ### Carriage returns in front of a terminator -/

/-- The first line feed of a text has two carriage returns in front of it exactly if its line ends
in one.  The induction is on the line; from no character but its last can the three begin. -/
theorem infix_terminated_iff {t : Terminator} {line : List Char} (hfeed : '\n' ∉ line)
    (hwhole : t = .lf → line.getLast? ≠ some '\r') (text : List Char) :
    ['\r', '\r', '\n'] <:+: line ++ t.chars ++ text ↔
      line.getLast? = some '\r' ∨ ['\r', '\r', '\n'] <:+: text := by
  induction line with
  | nil => cases t <;> simp [Terminator.chars, List.infix_cons_iff]
  | cons c rest ih =>
      cases rest with
      | nil =>
          cases t with
          | lf =>
              have hc : ¬ c = '\r' := by simpa using hwhole rfl
              simp [Terminator.chars, List.infix_cons_iff, hc]
          | crlf => simp [Terminator.chars, List.infix_cons_iff, eq_comm]
      | cons d more =>
          have hrest : '\n' ∉ d :: more := fun hmem => hfeed (List.mem_cons_of_mem _ hmem)
          have hlater : ¬ ['\r', '\r', '\n'] <+: c :: (d :: more ++ t.chars ++ text) := by
            intro hfront
            simp only [List.cons_append, List.cons_prefix_cons] at hfront
            obtain ⟨-, hd, hnext⟩ := hfront
            cases more with
            | nil =>
                cases t with
                | lf => exact hwhole rfl (by simp [← hd])
                | crlf => simp [Terminator.chars] at hnext
            | cons e others =>
                simp only [List.cons_append, List.cons_prefix_cons] at hnext
                exact hrest (by simp [← hnext.1])
          rw [List.cons_append, List.cons_append, List.infix_cons_iff, or_iff_right hlater,
            List.getLast?_cons_cons]
          exact ih hrest (by simpa using hwhole)

/-- **Two carriage returns in front of a line feed are one more than its terminator has**, so the
piece before that terminator ends in the other one. -/
theorem Proper.infix_text_iff (h : layout.Proper) :
    ['\r', '\r', '\n'] <:+: layout.text ↔ ∃ p ∈ layout.pieces, p.1.getLast? = some '\r' := by
  obtain ⟨pieces, rest⟩ := layout
  induction pieces with
  | nil =>
      have hnot : ¬ ['\r', '\r', '\n'] <:+: rest := fun hin =>
        h.restFeedless (hin.subset (by simp))
      simpa [text] using hnot
  | cons p more ih =>
      obtain ⟨hfeed, hwhole, hmore⟩ := proper_cons_iff.mp h
      rw [text_cons, infix_terminated_iff hfeed hwhole, ih hmore]
      simp [or_and_right, exists_or]

/-! ### One terminator throughout -/

/-- **When a layout is still proper with one terminator throughout.** -/
theorem Proper.proper_endedBy_iff (h : layout.Proper) {t : Terminator} :
    (layout.endedBy t).Proper ↔
      ¬ (t = .lf ∧ ∃ p ∈ layout.pieces, p.1.getLast? = some '\r') := by
  constructor
  · intro hplain ⟨hlf, p, hp, hlast⟩
    exact hplain.whole (p.1, t) (List.mem_map.mpr ⟨p, hp, rfl⟩) hlf hlast
  · intro hnone
    refine ⟨?_, ?_, h.restFeedless⟩
    · intro q hq
      obtain ⟨p, hp, rfl⟩ := List.mem_map.mp hq
      exact h.feedless p hp
    · intro q hq hlf hlast
      obtain ⟨p, hp, rfl⟩ := List.mem_map.mp hq
      exact hnone ⟨hlf, p, hp, hlast⟩

/-- What a plain terminator behind a piece is read as. -/
def plainKind (piece : List Char) : Terminator :=
  if piece.getLast? = some '\r' then .crlf else .lf

theorem plainKind_eq_crlf_iff {piece : List Char} :
    plainKind piece = .crlf ↔ piece.getLast? = some '\r' := by
  simp [plainKind]

theorem terminators_plain {line : List Char} (hfeed : '\n' ∉ line) (text : List Char) :
    Document.terminators false (line ++ Terminator.lf.chars ++ text) =
      plainKind line :: Document.terminators false text := by
  rw [List.append_assoc, Document.terminators_append hfeed]
  cases hlast : line.getLast? with
  | none => simp [plainKind, hlast, Terminator.chars, Document.terminators]
  | some c => simp [plainKind, hlast, Terminator.chars, Document.terminators]

/-- **The terminators that are read when plain ones have been written.** -/
theorem Proper.terminators_endedBy_lf (h : layout.Proper) :
    Document.terminators false (layout.endedBy .lf).text =
      layout.pieces.map fun p => plainKind p.1 := by
  obtain ⟨pieces, rest⟩ := layout
  induction pieces with
  | nil => exact h.terminators_text
  | cons p more ih =>
      obtain ⟨hfeed, -, hmore⟩ := proper_cons_iff.mp h
      show Document.terminators false
        (text ⟨(p.1, .lf) :: (endedBy .lf ⟨more, rest⟩).pieces, rest⟩) = _
      rw [text_cons, terminators_plain hfeed]
      exact congrArg _ (ih hmore)

/-- Behind plain terminators no more carriage returns are read than there were before, since a piece
that ends in one had a terminator with another. -/
theorem Proper.count_plainKind (h : layout.Proper) :
    (layout.pieces.map fun p => plainKind p.1).count .crlf ≤ layout.kinds.count .crlf ∧
      layout.kinds.count .lf ≤ (layout.pieces.map fun p => plainKind p.1).count .lf := by
  have hkind : ∀ p ∈ layout.pieces, plainKind p.1 = .crlf → p.2 = .crlf := by
    intro p hp hcrlf
    cases hown : p.2 with
    | lf => exact absurd (plainKind_eq_crlf_iff.mp hcrlf) (h.whole p hp hown)
    | crlf => rfl
  simp only [kinds, List.count_eq_countP, List.countP_map]
  refine ⟨List.countP_mono_left ?_, List.countP_mono_left ?_⟩
  · intro p hp hcrlf
    simpa using hkind p hp (by simpa using hcrlf)
  · intro p hp hlf
    have hown : p.2 = .lf := by simpa using hlf
    cases hread : plainKind p.1 with
    | lf => simp [hread]
    | crlf =>
        rw [hkind p hp hread] at hown
        cases hown

theorem lines_endedBy (t : Terminator) (layout : Layout) :
    (layout.endedBy t).lines = layout.lines := by
  have hpieces : (layout.endedBy t).pieces.map Prod.fst = layout.pieces.map Prod.fst := by
    simp [endedBy, Function.comp_def]
  rw [lines, hpieces]
  rfl

theorem kinds_endedBy (t : Terminator) (layout : Layout) :
    (layout.endedBy t).kinds = List.replicate layout.kinds.length t := by
  simp [kinds, endedBy, Function.comp_def, List.map_const']

/-- **Replacing the terminators by the one that most lines have leaves it the one that most lines
have.** -/
theorem Proper.majority_endedBy (h : layout.Proper) :
    Document.majority (layout.endedBy (Document.majority layout.text)).text =
      Document.majority layout.text := by
  have hmajority : Document.majority layout.text
      = if layout.kinds.count .lf < layout.kinds.count .crlf then .crlf else .lf := by
    rw [Document.majority, h.terminators_text]
  by_cases hmore : layout.kinds.count .lf < layout.kinds.count .crlf
  · rw [if_pos hmore] at hmajority
    rw [hmajority]
    have hkinds := (h.proper_endedBy_iff (t := .crlf).mpr (by simp)).terminators_text
    rw [kinds_endedBy] at hkinds
    refine Document.majority_of_forall ?_ ?_
    · rw [hkinds]
      exact fun s hs => List.eq_of_mem_replicate hs
    · have hsome : 0 < layout.kinds.length := by
        have hle : layout.kinds.count .crlf ≤ layout.kinds.length := List.count_le_length
        omega
      rw [hkinds]
      simpa [List.replicate_eq_nil_iff] using Nat.ne_of_gt hsome
  · rw [if_neg hmore] at hmajority
    rw [hmajority, Document.majority, h.terminators_endedBy_lf]
    obtain ⟨hcrlf, hlf⟩ := h.count_plainKind
    exact if_neg (by omega)

end Layout

namespace Document

attribute [ext] Document

/-! ### What is kept in any case -/

theorem ending_parse (text : String) : (parse text).ending = majority text.toList := rfl

theorem trailing_parse (text : String) :
    (parse text).trailing = (text.toList.getLast? == some '\n') := rfl

/-- What is written when a text has been read. -/
theorem toList_render_parse {layout : Layout} (h : layout.Proper) {text : String}
    (htext : layout.text = text.toList) :
    (parse text).render.toList = (layout.endedBy (parse text).ending).text := by
  rw [toList_render, ← text_layout, layout_parse h htext]

/-- **Normalising keeps the terminator.** -/
theorem ending_parse_render (text : String) :
    (parse (parse text).render).ending = (parse text).ending := by
  obtain ⟨layout, hproper, htext⟩ := Layout.exists_proper text.toList
  rw [ending_parse, toList_render_parse hproper htext, ending_parse, ← htext]
  exact hproper.majority_endedBy

/-- Normalising keeps whether the last line is terminated. -/
theorem trailing_parse_render (text : String) :
    (parse (parse text).render).trailing = (parse text).trailing := by
  obtain ⟨layout, hproper, htext⟩ := Layout.exists_proper text.toList
  have hrest : '\n' ∉ (layout.endedBy (parse text).ending).rest := hproper.restFeedless
  rw [trailing_parse, trailing_parse, Bool.eq_iff_iff, beq_iff_eq, beq_iff_eq,
    toList_render_parse hproper htext, Layout.getLast?_text_iff hrest, ← htext,
    hproper.getLast?_text]
  simp [Layout.endedBy]

/-! ### What comes back -/

/-- The text has a line feed with two carriage returns in front of it, of which the first is an
ordinary character, and is written with plain terminators. -/
def Exposes (text : String) : Prop :=
  (parse text).ending = .lf ∧ ['\r', '\r', '\n'] <:+: text.toList

theorem not_exposes_iff {layout : Layout} (h : layout.Proper) {text : String}
    (htext : layout.text = text.toList) :
    ¬ Exposes text ↔ (parse text).layout.Proper := by
  rw [Exposes, ← htext, h.infix_text_iff, layout_parse h htext, h.proper_endedBy_iff]

/-- Lines that come back bring the rest of the document with them. -/
theorem parse_render_of_lines {text : String}
    (h : (parse (parse text).render).lines = (parse text).lines) :
    parse (parse text).render = parse text :=
  Document.ext h (ending_parse_render text) (trailing_parse_render text)

/-- **If the layout that is written is proper all lines come back**, since it is the one that is
read. -/
theorem lines_parse_render_of_proper {text : String} (h : (parse text).layout.Proper) :
    (parse (parse text).render).lines = (parse text).lines := by
  obtain ⟨layout, hproper, htext⟩ := Layout.exists_proper text.toList
  have hwritten : (parse text).layout.text = (parse text).render.toList :=
    (text_layout _).trans (toList_render _).symm
  calc (parse (parse text).render).lines
      = (parse text).layout.lines.map String.ofList := by rw [h.parse_text hwritten]
    _ = layout.lines.map String.ofList := by
        rw [layout_parse hproper htext, Layout.lines_endedBy]
    _ = (parse text).lines := by rw [hproper.parse_text htext]

/-- **A rendering that comes back has one terminator throughout.** -/
theorem endsBy_of_render {text : String}
    (h : (parse (parse text).render).render = (parse text).render) :
    EndsBy (parse text).ending (parse text).render.toList := by
  obtain ⟨layout, hproper, htext⟩ := Layout.exists_proper (parse text).render.toList
  have hsame : (layout.endedBy (parse text).ending).text = layout.text := by
    rw [← ending_parse_render, ← toList_render_parse hproper htext, h, htext]
  have hkinds := congrArg Layout.kinds (Layout.endedBy_eq_of_text hsame)
  rw [Layout.kinds_endedBy] at hkinds
  rw [endsBy_iff, ← htext, hproper.terminators_text, ← hkinds]
  exact fun s hs => List.eq_of_mem_replicate hs

/-- **A text that exposes a carriage return is not written with one terminator throughout.** -/
theorem proper_of_endsBy {text : String}
    (h : EndsBy (parse text).ending (parse text).render.toList) : (parse text).layout.Proper := by
  obtain ⟨layout, hproper, htext⟩ := Layout.exists_proper text.toList
  rw [layout_parse hproper htext, hproper.proper_endedBy_iff]
  intro ⟨hlf, p, hp, hlast⟩
  rw [endsBy_iff, toList_render_parse hproper htext, hlf, hproper.terminators_endedBy_lf] at h
  have hplain := h _ (List.mem_map_of_mem hp)
  rw [Layout.plainKind_eq_crlf_iff.mpr hlast] at hplain
  cases hplain

/--
**When normalising a text gives one terminator throughout, and when a second time changes nothing.**
The terminator of the document is the same the second time in any case.  That every terminator of
the rendering is this one, that the rendering comes back, and that the lines come back are one and
the same thing: it is so exactly if the text exposes no carriage return.  A text with more
terminators that have a carriage return than plain ones never does, and neither does one that has no
line feed with two carriage returns in front of it.
-/
theorem normalising_twice (text : String) :
    (parse (parse text).render).ending = (parse text).ending ∧
    (EndsBy (parse text).ending (parse text).render.toList ↔ ¬ Exposes text) ∧
    ((parse (parse text).render).render = (parse text).render ↔ ¬ Exposes text) ∧
    ((parse (parse text).render).lines = (parse text).lines ↔ ¬ Exposes text) := by
  obtain ⟨layout, hproper, htext⟩ := Layout.exists_proper text.toList
  rw [not_exposes_iff hproper htext]
  have hrender : (parse (parse text).render).lines = (parse text).lines →
      (parse (parse text).render).render = (parse text).render := fun hlines => by
    rw [parse_render_of_lines hlines]
  refine ⟨ending_parse_render text, ⟨proper_of_endsBy, ?_⟩, ⟨?_, ?_⟩, ⟨?_, ?_⟩⟩
  · intro h
    exact endsBy_of_render (hrender (lines_parse_render_of_proper h))
  · intro h
    exact proper_of_endsBy (endsBy_of_render h)
  · intro h
    exact hrender (lines_parse_render_of_proper h)
  · intro h
    exact proper_of_endsBy (endsBy_of_render (hrender h))
  · exact lines_parse_render_of_proper

/-- A line that ends in a carriage return of its own, in a text whose terminators are mostly plain:
what is written has both terminators, and a second time the line has lost its end. -/
theorem normalising_exposes_return :
    let doc := parse "x\r\r\ny\nz\n"
    doc.ending = .lf ∧ ¬ EndsBy doc.ending doc.render.toList ∧
      (parse doc.render).render ≠ doc.render ∧ (parse doc.render).lines ≠ doc.lines := by
  decide

end Document

end LineCut
