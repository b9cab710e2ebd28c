/-
A text taken apart at its terminators.

Reading goes over a text three times.  It counts the two kinds of terminators, it cuts behind each
line feed and drops what belongs to the terminator, and it looks at the last character.  Each of
the three knows by itself what a terminator is, and writing has to put back what the second one
dropped.  That they agree is said here once, with the text written as it is made up: pieces, each
with the terminator behind it, and what follows the last.

Such a `Layout` is proper if the terminators in it are all there are and none is shorter than it
should be: no piece holds a line feed, and no piece before a plain line feed ends in a carriage
return, which would be part of the terminator.  A carriage return before a terminator that has one
of its own is an ordinary character.  Every text has a proper layout, and only one.  Kinds, lines
and the last character are read off it, and writing the document gives the layout with one kind of
terminator in place of both.
-/
import LineCut.Proofs.Rereading
import LineCut.Proofs.Terminators

namespace LineCut

/-- Pieces of a text, each with the terminator behind it, and what follows the last of them. -/
structure Layout where
  pieces : List (List Char × Terminator)
  rest : List Char
  deriving DecidableEq, Repr

namespace Layout

/-- The text that is laid out. -/
def text (layout : Layout) : List Char :=
  layout.pieces.flatMap (fun p => p.1 ++ p.2.chars) ++ layout.rest

/-- The terminators, in order. -/
def kinds (layout : Layout) : List Terminator :=
  layout.pieces.map Prod.snd

/-- The texts between the terminators.  What follows the last is one if there is something there. -/
def lines (layout : Layout) : List (List Char) :=
  layout.pieces.map Prod.fst ++ (if layout.rest = [] then [] else [layout.rest])

/-- The same with every terminator replaced. -/
def endedBy (t : Terminator) (layout : Layout) : Layout where
  pieces := layout.pieces.map fun p => (p.1, t)
  rest := layout.rest

/-- The terminators of the layout are those of its text. -/
structure Proper (layout : Layout) : Prop where
  /-- Every line feed before the rest is that of a terminator. -/
  feedless : ∀ p ∈ layout.pieces, '\n' ∉ p.1
  /-- A terminator without a carriage return has none in front of it. -/
  whole : ∀ p ∈ layout.pieces, p.2 = .lf → p.1.getLast? ≠ some '\r'
  /-- There is no terminator in the rest. -/
  restFeedless : '\n' ∉ layout.rest

variable {layout : Layout}

theorem text_cons (p : List Char × Terminator) (pieces : List (List Char × Terminator))
    (rest : List Char) :
    text ⟨p :: pieces, rest⟩ = p.1 ++ p.2.chars ++ text ⟨pieces, rest⟩ := by
  simp [text]

theorem proper_cons_iff {p : List Char × Terminator} {pieces : List (List Char × Terminator)}
    {rest : List Char} :
    Proper ⟨p :: pieces, rest⟩ ↔
      '\n' ∉ p.1 ∧ (p.2 = .lf → p.1.getLast? ≠ some '\r') ∧ Proper ⟨pieces, rest⟩ := by
  constructor
  · intro h
    obtain ⟨hfeed, hfeeds⟩ := List.forall_mem_cons.mp h.feedless
    obtain ⟨hwhole, hwholes⟩ := List.forall_mem_cons.mp h.whole
    exact ⟨hfeed, hwhole, hfeeds, hwholes, h.restFeedless⟩
  · intro ⟨hfeed, hwhole, hothers⟩
    exact ⟨List.forall_mem_cons.mpr ⟨hfeed, hothers.feedless⟩,
      List.forall_mem_cons.mpr ⟨hwhole, hothers.whole⟩, hothers.restFeedless⟩

theorem text_eq_nil_iff : layout.text = [] ↔ layout.pieces = [] ∧ layout.rest = [] := by
  obtain ⟨pieces, rest⟩ := layout
  cases pieces with
  | nil => simp [text]
  | cons p more =>
      obtain ⟨piece, t⟩ := p
      cases t with
      | lf => simp [text, Terminator.chars]
      | crlf => simp [text, Terminator.chars]

/-- Replacing the terminators by what they are changes nothing. -/
theorem endedBy_of_kinds {t : Terminator} (h : ∀ kind ∈ layout.kinds, kind = t) :
    layout.endedBy t = layout := by
  have hpieces : layout.pieces.map (fun p => (p.1, t)) = layout.pieces.map id := by
    refine List.map_congr_left fun p hp => ?_
    have hkind := h p.2 (List.mem_map_of_mem hp)
    exact Prod.ext rfl hkind.symm
  rw [endedBy, hpieces, List.map_id]

/-- No line of a proper layout holds a line feed. -/
theorem Proper.feedless_lines (h : layout.Proper) : ∀ line ∈ layout.lines, '\n' ∉ line := by
  intro line hmem
  rcases List.mem_append.mp hmem with hpiece | hrest
  · obtain ⟨p, hp, rfl⟩ := List.mem_map.mp hpiece
    exact h.feedless p hp
  · by_cases hnil : layout.rest = []
    · simp [hnil] at hrest
    · rw [if_neg hnil, List.mem_singleton] at hrest
      rw [hrest]
      exact h.restFeedless

/-! ### Every text has one -/

/-- A character in front of a text has its place in the layout.  A line feed is a terminator with
nothing before it, a carriage return becomes part of a plain terminator that begins the text, and
all else goes to the first piece, or to the rest if there is none. -/
theorem exists_cons (c : Char) (h : layout.Proper) :
    ∃ longer : Layout, longer.Proper ∧ longer.text = c :: layout.text := by
  obtain ⟨pieces, rest⟩ := layout
  by_cases hc : c = '\n'
  · subst hc
    refine ⟨⟨([], .lf) :: pieces, rest⟩, proper_cons_iff.mpr ⟨by simp, by simp, h⟩, ?_⟩
    rw [text_cons]
    rfl
  · cases pieces with
    | nil =>
        refine ⟨⟨[], c :: rest⟩, ⟨by simp, by simp, ?_⟩, rfl⟩
        simp [Ne.symm hc, h.restFeedless]
    | cons p more =>
        obtain ⟨piece, t⟩ := p
        obtain ⟨hfeed, hwhole, hmore⟩ := proper_cons_iff.mp h
        by_cases hjoins : c = '\r' ∧ piece = [] ∧ t = .lf
        · obtain ⟨rfl, rfl, rfl⟩ := hjoins
          refine ⟨⟨([], .crlf) :: more, rest⟩, proper_cons_iff.mpr ⟨by simp, by simp, hmore⟩, ?_⟩
          rw [text_cons, text_cons]
          rfl
        · refine ⟨⟨(c :: piece, t) :: more, rest⟩, proper_cons_iff.mpr ⟨?_, ?_, hmore⟩, ?_⟩
          · simp [Ne.symm hc, hfeed]
          · intro hlf hlast
            cases piece with
            | nil => exact hjoins ⟨by simpa using hlast, rfl, hlf⟩
            | cons d others => exact hwhole hlf (by simpa using hlast)
          · rw [text_cons, text_cons]
            rfl

/-- **Every text has a proper layout.** -/
theorem exists_proper (text : List Char) :
    ∃ layout : Layout, layout.Proper ∧ layout.text = text := by
  induction text with
  | nil => exact ⟨⟨[], []⟩, ⟨by simp, by simp, by simp⟩, rfl⟩
  | cons c rest ih =>
      obtain ⟨layout, hproper, rfl⟩ := ih
      exact exists_cons c hproper

/-! ### What reading makes of it -/

/-- **What is counted are the terminators of the layout.** -/
theorem Proper.terminators_text (h : layout.Proper) :
    Document.terminators false layout.text = layout.kinds := by
  obtain ⟨pieces, rest⟩ := layout
  induction pieces with
  | nil =>
      have hrest := Document.terminators_append h.restFeedless false []
      rw [List.append_nil] at hrest
      show Document.terminators false rest = []
      rw [hrest]
      rfl
  | cons p more ih =>
      obtain ⟨hfeed, hwhole, hmore⟩ := proper_cons_iff.mp h
      rw [text_cons, Document.terminators_terminated hfeed hwhole, ih hmore]
      rfl

/-- **What is cut off are the lines of the layout.** -/
theorem Proper.splitLines_text (h : layout.Proper) :
    Document.splitLines [] layout.text = layout.lines := by
  obtain ⟨pieces, rest⟩ := layout
  induction pieces with
  | nil =>
      have hrest := Document.splitLines_openLine h.restFeedless [] []
      rw [List.append_nil] at hrest
      show Document.splitLines [] rest = [] ++ if rest = [] then [] else [rest]
      rw [hrest]
      by_cases hnil : rest = []
      · simp [Document.splitLines, hnil]
      · simp [Document.splitLines, hnil]
  | cons p more ih =>
      obtain ⟨hfeed, hwhole, hmore⟩ := proper_cons_iff.mp h
      rw [text_cons, Document.splitLines_append_chars, Document.splitLines_terminated hfeed hwhole,
        ih hmore]
      rfl

/-- The last character is a line feed exactly if nothing stands behind a last terminator, as long as
there is no line feed in what does. -/
theorem getLast?_text_iff (hfeed : '\n' ∉ layout.rest) :
    layout.text.getLast? = some '\n' ↔ layout.rest = [] ∧ layout.pieces ≠ [] := by
  obtain ⟨pieces, rest⟩ := layout
  by_cases hrest : rest = []
  · subst hrest
    rcases List.eq_nil_or_concat pieces with rfl | ⟨front, p, rfl⟩
    · simp [text]
    · obtain ⟨piece, t⟩ := p
      cases t with
      | lf => simp [text, Terminator.chars]
      | crlf => simp [text, Terminator.chars]
  · have hlast : rest.getLast? ≠ some '\n' := fun hl => hfeed (List.mem_of_getLast? hl)
    have htext : (text ⟨pieces, rest⟩).getLast? = rest.getLast? := by
      rw [text, List.getLast?_append, List.getLast?_eq_some_getLast hrest]
      rfl
    rw [htext]
    simp [hlast, hrest]

/-- **The last character is a line feed exactly if the text ends with a terminator.** -/
theorem Proper.getLast?_text (h : layout.Proper) :
    layout.text.getLast? = some '\n' ↔ layout.rest = [] ∧ layout.pieces ≠ [] :=
  getLast?_text_iff h.restFeedless

/-- A layout is known from its lines and its terminators. -/
theorem eq_zip_lines_kinds (layout : Layout) :
    layout = ⟨(layout.lines.take layout.kinds.length).zip layout.kinds,
      (layout.lines.drop layout.kinds.length).flatten⟩ := by
  obtain ⟨pieces, rest⟩ := layout
  have hlength : (kinds ⟨pieces, rest⟩).length = (pieces.map Prod.fst).length := by simp [kinds]
  have hpieces : ((lines ⟨pieces, rest⟩).take (kinds ⟨pieces, rest⟩).length).zip
      (kinds ⟨pieces, rest⟩) = pieces := by
    rw [hlength, lines, List.take_left, kinds, List.zip_map']
    simp
  have hrest : ((lines ⟨pieces, rest⟩).drop (kinds ⟨pieces, rest⟩).length).flatten = rest := by
    rw [hlength, lines, List.drop_left]
    by_cases hnil : rest = []
    · simp [hnil]
    · simp [hnil]
  rw [hpieces, hrest]

/-- **A text has no other proper layout.** -/
theorem Proper.unique (h : layout.Proper) {other : Layout} (hother : other.Proper)
    (htext : layout.text = other.text) : layout = other := by
  have hkinds : layout.kinds = other.kinds := by
    rw [← h.terminators_text, htext, hother.terminators_text]
  have hlines : layout.lines = other.lines := by
    rw [← h.splitLines_text, htext, hother.splitLines_text]
  rw [eq_zip_lines_kinds layout, eq_zip_lines_kinds other, hkinds, hlines]

/-- **A document is read off the layout of its text.** -/
theorem Proper.parse_text (h : layout.Proper) {text : String} (htext : layout.text = text.toList) :
    Document.parse text =
      { lines := layout.lines.map String.ofList
        ending := if layout.kinds.count .lf < layout.kinds.count .crlf then .crlf else .lf
        trailing := decide (layout.rest = [] ∧ layout.pieces ≠ []) } := by
  have hending : Document.majority text.toList
      = if layout.kinds.count .lf < layout.kinds.count .crlf then .crlf else .lf := by
    rw [← htext, Document.majority, h.terminators_text]
  have htrailing : (text.toList.getLast? == some '\n')
      = decide (layout.rest = [] ∧ layout.pieces ≠ []) := by
    rw [← htext, Bool.eq_iff_iff, beq_iff_eq, decide_eq_true_eq]
    exact h.getLast?_text
  rw [Document.parse, ← htext, h.splitLines_text, htext, hending, htrailing]

end Layout

namespace Document

/-! ### How a document is laid out

Writing puts the terminator of the document behind each line, but not behind the last one if that
is not terminated.  The layout this gives need not be proper, since the lines of a document can be
any texts.
-/

/-- The lines that a terminator is written behind. -/
def terminatedLines (doc : Document) : List String :=
  if doc.trailing then doc.lines else doc.lines.dropLast

/-- What is written behind the last terminator. -/
def openEnd (doc : Document) : List Char :=
  if doc.trailing then [] else doc.lines.getLast?.elim [] String.toList

/-- The layout in which a document is written. -/
def layout (doc : Document) : Layout where
  pieces := doc.terminatedLines.map fun line => (line.toList, doc.ending)
  rest := doc.openEnd

/-- Joined lines have a terminator behind each but the last. -/
theorem join_concat (t : Terminator) (front : List (List Char)) (last : List Char) :
    join t (front ++ [last]) = front.flatMap (· ++ t.chars) ++ last := by
  have hne : front ++ [last] ≠ [] := by simp
  refine List.append_cancel_right ((join_append (t := t) hne).trans ?_)
  simp

/-- **What is written has this layout.** -/
theorem text_layout (doc : Document) : doc.layout.text = doc.renderChars := by
  obtain ⟨lines, ending, trailing⟩ := doc
  rcases List.eq_nil_or_concat lines with rfl | ⟨front, last, rfl⟩
  · simp [layout, terminatedLines, openEnd, renderChars, Layout.text]
  · have hjoin := join_concat ending (front.map String.toList) last.toList
    rw [List.flatMap_map] at hjoin
    cases trailing with
    | true =>
        simp [layout, terminatedLines, openEnd, renderChars, Layout.text, hjoin, List.flatMap_map]
    | false =>
        simp [layout, terminatedLines, openEnd, renderChars, Layout.text, hjoin, List.flatMap_map]

/-- **A document that was read is written in the layout it was read from, but with its own
terminator throughout.** -/
theorem layout_parse {layout : Layout} (h : layout.Proper) {text : String}
    (htext : layout.text = text.toList) :
    (parse text).layout = layout.endedBy (parse text).ending := by
  rw [h.parse_text htext]
  obtain ⟨pieces, rest⟩ := layout
  by_cases hrest : rest = []
  · by_cases hpieces : pieces = []
    · simp [Document.layout, terminatedLines, openEnd, Layout.endedBy, Layout.lines, hrest, hpieces]
    · simp [Document.layout, terminatedLines, openEnd, Layout.endedBy, Layout.lines, hrest, hpieces]
  · simp [Document.layout, terminatedLines, openEnd, Layout.endedBy, Layout.lines, hrest]

/--
**Reading and writing changes terminators only.**  A text has exactly one layout, and the document
is read off it: its terminator is that of strictly more lines, the one with a carriage return only
if these are more; its lines are the texts between the terminators, and one more if something
follows the last.  What is written is the same layout with the terminator of the document
everywhere, so the text itself if all its terminators are the same.
-/
theorem render_parse_layout (text : String) :
    ∃ layout : Layout, layout.Proper ∧ layout.text = text.toList ∧
      (∀ other : Layout, other.Proper → other.text = text.toList → other = layout) ∧
      ((parse text).ending = .crlf ↔ layout.kinds.count .lf < layout.kinds.count .crlf) ∧
      (parse text).lines = layout.lines.map String.ofList ∧
      (parse text).lines.length = layout.kinds.length +
        (if text ≠ "" ∧ text.toList.getLast? ≠ some '\n' then 1 else 0) ∧
      (∀ line ∈ (parse text).lines, '\n' ∉ line.toList) ∧
      (parse text).render.toList = (layout.endedBy (parse text).ending).text ∧
      ∀ t, (∀ kind ∈ layout.kinds, kind = t) → (parse text).render = text := by
  obtain ⟨layout, hproper, htext⟩ := Layout.exists_proper text.toList
  have hparse := hproper.parse_text htext
  have hrender : (parse text).render.toList = (layout.endedBy (parse text).ending).text := by
    rw [toList_render, ← text_layout, layout_parse hproper htext]
  refine ⟨layout, hproper, htext, ?_, ?_, ?_, ?_, ?_, hrender, ?_⟩
  · intro other hother hsame
    exact hother.unique hproper (hsame.trans htext.symm)
  · rw [hparse]
    simp
  · rw [hparse]
  · rw [hparse]
    have hempty : text = "" ↔ layout.pieces = [] ∧ layout.rest = [] := by
      rw [← Layout.text_eq_nil_iff, htext, String.toList_eq_nil_iff]
    simp only [ne_eq, hempty, ← htext, hproper.getLast?_text]
    by_cases hrest : layout.rest = []
    · by_cases hpieces : layout.pieces = []
      · simp [Layout.lines, Layout.kinds, hrest, hpieces]
      · simp [Layout.lines, Layout.kinds, hrest, hpieces]
    · simp [Layout.lines, Layout.kinds, hrest]
  · rw [hparse]
    intro line hmem
    obtain ⟨chars, hchars, rfl⟩ := List.mem_map.mp hmem
    rw [String.toList_ofList]
    exact hproper.feedless_lines chars hchars
  · intro t hkinds
    have hsame : layout.endedBy (parse text).ending = layout := by
      by_cases hnone : layout.kinds = []
      · exact Layout.endedBy_of_kinds (by simp [hnone])
      · have hending : (parse text).ending = t := by
          have hterminators := hproper.terminators_text
          rw [htext] at hterminators
          exact majority_of_forall (by rw [hterminators]; exact hkinds)
            (by rw [hterminators]; exact hnone)
        rw [hending]
        exact Layout.endedBy_of_kinds hkinds
    rw [hsame, htext] at hrender
    exact String.toList_inj.mp hrender

/-- A text with a carriage return before each kind of terminator and behind the last one, whose
terminators are mostly plain. -/
theorem render_parse_layout_mixed :
    let text := "a\r\r\n\n\rb\nc\r"
    let layout : Layout := ⟨[(['a', '\r'], .crlf), ([], .lf), (['\r', 'b'], .lf)], ['c', '\r']⟩
    layout.Proper ∧ layout.text = text.toList ∧
      (parse text).lines = ["a\r", "", "\rb", "c\r"] ∧ (parse text).ending = .lf ∧
      (parse text).render.toList = "a\r\n\n\rb\nc\r".toList := by
  intro text layout
  have hproper : layout.Proper := ⟨by decide, by decide, by decide⟩
  have htext : layout.text = text.toList := by decide
  obtain ⟨found, -, -, hunique, hending, hlines, -, -, hrender, -⟩ := render_parse_layout text
  obtain rfl : layout = found := hunique layout hproper htext
  have hlf : (parse text).ending = .lf := by decide
  refine ⟨hproper, htext, hlines, hlf, ?_⟩
  rw [hrender, hlf]
  decide

end Document

end LineCut
