/-
Patterns for lines.

A pattern is a regular expression in the widespread notation, without back references and without
looking around.  It is looked for anywhere in a line unless it says where it has to be.  The text
it was written as stays with it, because a report of what will be matched shows that text.

A search goes through the bytes of a line and ends at the first place where a way through the
pattern ends.  If that is a place inside a character, nothing is found there, and the search is
made again from one byte further on.  A pattern that can be passed at such places is passed at all
of them, so every search strays to the next one, and a way is only seen if no such place lies on
it, which is to say that it takes none but ASCII characters.  A short line in which it is asked
about words in the sense of Unicode is searched from one beginning after the other instead, and
there no way is missed.

A pattern must not be too large.  What counts is the machine that is built of it, and that is not
built here.  So its size is bounded from below: a counted repetition is built as often as it is
counted, and every character in it takes a state for each of its bytes.  What is refused for this
bound is too large; a machine that is larger than the bound because of what its sets of characters
are made of may still be taken.
-/
import LineCut.Pattern.Meaning
import LineCut.Pattern.Progress

namespace LineCut

/-- A pattern that has been understood. -/
structure Pattern where
  source : String
  expr : Pattern.Expr Pattern.Step
  deriving Repr

namespace Pattern

/-- What a text means as a pattern. -/
def read (source : String) : Except Fault (Expr Step) := do
  let node ← Node.read source
  let (expr, _) ← node.expr .initial
  return expr

/-- Understand a pattern. -/
def compile (source : String) : Except Refusal Pattern :=
  match read source with
  | .error fault => .error (.flawed fault)
  | .ok expr => if sizeLimit < expr.leastBytes then .error .tooLarge else .ok ⟨source, expr⟩

/-- The largest number of bytes in a short line. -/
def shortLine : Nat := 128

/-- Whether a search in the line strays to places inside characters. -/
def strays (pattern : Pattern) (line : String) : Bool :=
  pattern.expr.passable Step.staysInside &&
    (shortLine < line.utf8ByteSize || !pattern.expr.any Step.asksUnicode)

/-- Whether the pattern is found in a line. -/
def isMatch (pattern : Pattern) (line : String) : Bool :=
  let expr := if pattern.strays line then pattern.expr.map Step.toAscii else pattern.expr
  expr.matches line.toList

end Pattern

end LineCut
