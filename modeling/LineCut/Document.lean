/-
A text as lines.

The lines are kept without what ends them.  Beside them the document remembers two things about
the text it came from: which of the two terminators most of its lines had, and whether the last
line had one.  Writing the document uses those two and nothing else, so a text that mixes both
terminators comes out with one of them, and lines that are put in take the terminator of the
text they are put into.

A terminator is a line feed together with the carriage return in front of it, if there is one.
A carriage return anywhere else is an ordinary character of its line.
-/

namespace LineCut

/-- What stands at the end of a line: a line feed, with or without a carriage return. -/
inductive Terminator where
  | lf
  | crlf
  deriving DecidableEq, Repr

namespace Terminator

/-- The characters of a terminator. -/
def chars : Terminator → List Char
  | lf => ['\n']
  | crlf => ['\r', '\n']

/-- The name a report gives a terminator. -/
def name : Terminator → String
  | lf => "lf"
  | crlf => "crlf"

end Terminator

/-- Lines, the terminator they are written with, and whether the last one is terminated. -/
structure Document where
  lines : List String
  ending : Terminator
  trailing : Bool
  deriving DecidableEq, Repr

namespace Document

/-! ### Reading

A text is read from the left with the line under construction in hand, the newest character
first, so that the carriage return a terminator swallows is the head of that list.
-/

/-- The terminators of a text, in order.  `cr` says whether the character before the text is a
carriage return. -/
def terminators (cr : Bool) : List Char → List Terminator
  | [] => []
  | c :: rest =>
    if c == '\n' then (if cr then .crlf else .lf) :: terminators false rest
    else terminators (c == '\r') rest

/-- The line that ends here, given its characters from the last to the first. -/
def closeLine : List Char → List Char
  | '\r' :: rest => rest.reverse
  | line => line.reverse

/-- The lines of a text, given the characters of the line that is open, last first.  What
follows the last terminator is a line only if there is something there. -/
def splitLines (openLine : List Char) : List Char → List (List Char)
  | [] => if openLine.isEmpty then [] else [openLine.reverse]
  | c :: rest =>
    if c == '\n' then closeLine openLine :: splitLines [] rest
    else splitLines (c :: openLine) rest

/-- The terminator that strictly more lines have; on a tie it is the plain line feed. -/
def majority (text : List Char) : Terminator :=
  let found := terminators false text
  if found.count .lf < found.count .crlf then .crlf else .lf

/-- Read a text as lines. -/
def parse (text : String) : Document where
  lines := (splitLines [] text.toList).map String.ofList
  ending := majority text.toList
  trailing := text.toList.getLast? == some '\n'

/-! ### Writing -/

/-- The lines with the terminator between each two of them. -/
def join (ending : Terminator) : List (List Char) → List Char
  | [] => []
  | [line] => line
  | line :: rest => line ++ ending.chars ++ join ending rest

/-- The characters of the written document. -/
def renderChars (doc : Document) : List Char :=
  if doc.lines.isEmpty then []
  else
    join doc.ending (doc.lines.map String.toList) ++
      (if doc.trailing then doc.ending.chars else [])

/-- Write the document as a text. -/
def render (doc : Document) : String :=
  String.ofList doc.renderChars

/-- The same way of ending lines, around other lines. -/
def withLines (doc : Document) (lines : List String) : Document :=
  { doc with lines }

/-! ### What the parts are -/

@[simp] theorem lines_withLines (doc : Document) (lines : List String) :
    (doc.withLines lines).lines = lines := rfl

@[simp] theorem ending_withLines (doc : Document) (lines : List String) :
    (doc.withLines lines).ending = doc.ending := rfl

@[simp] theorem trailing_withLines (doc : Document) (lines : List String) :
    (doc.withLines lines).trailing = doc.trailing := rfl

theorem withLines_lines (doc : Document) : doc.withLines doc.lines = doc := rfl

theorem toList_render (doc : Document) : doc.render.toList = doc.renderChars := by
  simp [render]

theorem render_of_lines_nil {doc : Document} (h : doc.lines = []) : doc.render = "" := by
  simp [render, renderChars, h]

end Document

end LineCut
