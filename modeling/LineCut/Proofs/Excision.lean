/-
Nothing outside the excised lines is altered.

Between the text of a file and the text that is written stand a reading, which drops what ends the
lines, a scan, whose ranges come in the order of the plan, an edit and a writing, which ends all
lines alike.  For a text that ends all its lines alike the whole chain can be said without any of
them.  Cut the text behind each line feed, and put the terminator behind the last piece if it has
none.  A piece whose line no range holds is left as it is, to the last byte; where a range starts
stand the lines that its region puts in, each with the terminator of the text behind it; the other
pieces are gone.  The pieces that result, one behind another, are the text that is written, but for
the terminator of the last line where the text had none.
-/
import LineCut.Proofs.Separation
import LineCut.Proofs.Terminators

namespace LineCut

/-- The lines that regions put in at line `i`: those of each region with a range that starts
there. -/
def putInAt (regions : List Region) (scans : List RegionScan) (i : Nat) : List String :=
  (regions.zip scans).flatMap fun p =>
    p.2.ranges.flatMap fun range => if range.start = i then p.1.action.insertion else []

/-- What regions make of piece `i` of a text whose lines end by `t`. -/
def pieceAt (regions : List Region) (scans : List RegionScan) (t : Terminator) (i : Nat)
    (piece : List Char) : List Char :=
  if ∃ range ∈ foundRanges scans, range.Holds i then
    (putInAt regions scans i).flatMap fun line => line.toList ++ t.chars
  else piece

variable {regions : List Region} {scans : List RegionScan}

theorem insertedAt_editsOf (i : Nat) :
    Edit.insertedAt (editsOf regions scans) i = putInAt regions scans i := by
  simp only [Edit.insertedAt, editsOf, putInAt, List.flatMap_assoc, List.flatMap_map]

theorem exists_editsOf_holds (h : scans.length = regions.length) (i : Nat) :
    (∃ edit ∈ editsOf regions scans, edit.range.Holds i) ↔
      ∃ range ∈ foundRanges scans, range.Holds i := by
  rw [← ranges_editsOf h]
  simp

/-- A line with its terminator becomes what its edits make of it, each line with its terminator. -/
theorem pieceAt_line (h : scans.length = regions.length) (t : Terminator) (i : Nat)
    (line : String) :
    pieceAt regions scans t i (line.toList ++ t.chars) =
      (Edit.imageAt (editsOf regions scans) i line).flatMap fun l => l.toList ++ t.chars := by
  unfold pieceAt Edit.imageAt
  simp only [exists_editsOf_holds h, insertedAt_editsOf]
  by_cases hheld : ∃ range ∈ foundRanges scans, range.Holds i
  · rw [if_pos hheld, if_pos hheld]
  · rw [if_neg hheld, if_neg hheld]
    simp

/-- The pieces of a uniform text are the lines of its document, each with its terminator. -/
theorem complete_chunks_parse {text : String} (h : Document.Uniform text.toList) :
    (Document.chunks text.toList).map (Document.complete (Document.parse text).ending) =
      (Document.parse text).lines.map fun line =>
        line.toList ++ (Document.parse text).ending.chars := by
  have hpieces := Document.complete_chunks [] (by simp)
    (by simpa using h.endsBy_majority)
  simpa [Document.parse, Function.comp_def] using hpieces

/--
**Nothing outside the excised lines is altered, byte for byte.**  The pieces of a uniform text,
each left alone, replaced or dropped as the ranges that were found say, are the text that is
written; where the text does not end in a line feed, neither does what is written.
-/
theorem revise_alters_only_ranges (text : String) (regions : List Region) (revision : Revision)
    (huniform : Document.Uniform text.toList)
    (h : (Document.parse text).revise regions = .ok revision) :
    (((Document.chunks text.toList).map
        (Document.complete (Document.parse text).ending)).zipIdx.flatMap fun p =>
      pieceAt regions revision.scans (Document.parse text).ending p.2 p.1) =
    revision.output.render.toList ++
      (if text.toList.getLast? ≠ some '\n' ∧ revision.output.lines ≠ []
        then (Document.parse text).ending.chars else []) := by
  have hrevised := revised_of_revise h
  have hlength := (planSearch_of_scanPlan hrevised.scanned).length_eq
  have hlines : revision.output.lines
      = revisedLines (Document.parse text).lines regions revision.scans := by
    rw [hrevised.output_eq, Document.lines_withLines]
  have hending : revision.output.ending = (Document.parse text).ending := by
    rw [hrevised.output_eq, Document.ending_withLines]
  have htrailing : revision.output.trailing = (text.toList.getLast? == some '\n') := by
    rw [hrevised.output_eq, Document.trailing_withLines]
    rfl
  have hwritten := Document.renderChars_append revision.output
  rw [hending, htrailing] at hwritten
  rw [complete_chunks_parse huniform, Document.toList_render]
  set t := (Document.parse text).ending
  calc ((Document.parse text).lines.map fun line => line.toList ++ t.chars).zipIdx.flatMap
          (fun p => pieceAt regions revision.scans t p.2 p.1)
      = (Document.parse text).lines.zipIdx.flatMap fun p =>
          pieceAt regions revision.scans t p.2 (p.1.toList ++ t.chars) := by
        rw [List.zipIdx_map, List.flatMap_map]
        rfl
    _ = (Document.parse text).lines.zipIdx.flatMap fun p =>
          (Edit.imageAt (editsOf regions revision.scans) p.2 p.1).flatMap fun l =>
            l.toList ++ t.chars := by
        refine List.flatMap_congr fun p _ => ?_
        exact pieceAt_line hlength t p.2 p.1
    _ = revision.output.lines.flatMap fun l => l.toList ++ t.chars := by
        rw [hlines, revisedLines, Edit.images, List.flatMap_assoc]
    _ = _ := by
        rw [← hwritten]
        simp

/-- The same plan on a text with carriage returns and without a line feed at its end. -/
theorem revise_alters_only_ranges_crlf :
    let text := "// wire\r\nuse x\r\nkept\r\n  fn old (\r\n)\r\nrest\r"
    ∃ revision, Document.Uniform text.toList ∧
      (Document.parse text).revise usesAndMethod = .ok revision ∧
      revision.output.render = "kept\r\nfn new()\r\nend\r\nrest\r" ∧
      (((Document.chunks text.toList).map
          (Document.complete (Document.parse text).ending)).zipIdx.flatMap fun p =>
        pieceAt usesAndMethod revision.scans (Document.parse text).ending p.2 p.1) =
      revision.output.render.toList ++
        (if text.toList.getLast? ≠ some '\n' ∧ revision.output.lines ≠ []
          then (Document.parse text).ending.chars else []) := by
  intro text
  have huniform : Document.Uniform text.toList := ⟨.crlf, by decide +kernel⟩
  have hscan : scanPlan (Document.parse text).lines usesAndMethod
      = .ok [⟨"uses", [⟨"uses", 0, 2⟩]⟩, ⟨"method", [⟨"method", 3, 5⟩]⟩] := by decide +kernel
  have hgone : residual (revisedLines (Document.parse text).lines usesAndMethod
      [⟨"uses", [⟨"uses", 0, 2⟩]⟩, ⟨"method", [⟨"method", 3, 5⟩]⟩]) usesAndMethod
      [⟨"uses", [⟨"uses", 0, 2⟩]⟩, ⟨"method", [⟨"method", 3, 5⟩]⟩] = none := by decide +kernel
  have hrevise := revise_eq_ok hscan hgone
  exact ⟨_, huniform, hrevise, by decide +kernel,
    revise_alters_only_ranges text usesAndMethod _ huniform hrevise⟩

end LineCut
