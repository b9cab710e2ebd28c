/-
What a pattern means.

A pattern stands for ways to get from one place between the characters of a line to a later one.
The steps are of two kinds: across a character, if it is in a set, and no step at all, if the place
is as asked.  They are put together by following one another, by alternatives, and by repetition.

A line is stored as bytes, and a character may be several of them.  What is asked of a place is
therefore also asked of the places inside a character.  There a question about words of ASCII
characters can be answered yes, since the bytes on both sides are no ASCII characters.  Every other
question is answered no.
-/
import LineCut.Unicode.Query

namespace LineCut.Pattern

open Unicode (CharSet)

/-! ### Expressions -/

/-- Ways through a line, over steps of the kind `α`. -/
inductive Expr (α : Type) where
  | stay
  | step (a : α)
  | seq (first second : Expr α)
  | alt (left right : Expr α)
  | rep (low : Nat) (high : Option Nat) (body : Expr α)
  deriving Repr

namespace Expr

/-- The same ways over other steps. -/
def map {α β : Type} (f : α → β) : Expr α → Expr β
  | stay => stay
  | step a => step (f a)
  | seq x y => seq (x.map f) (y.map f)
  | alt x y => alt (x.map f) (y.map f)
  | rep low high x => rep low high (x.map f)

/-- Whether some step satisfies the test. -/
def any {α : Type} (test : α → Bool) : Expr α → Bool
  | stay => false
  | step a => test a
  | seq x y | alt x y => x.any test || y.any test
  | rep _ _ x => x.any test

/-- Whether there is a way whose steps all satisfy the test. -/
def passable {α : Type} (test : α → Bool) : Expr α → Bool
  | stay => true
  | step a => test a
  | seq x y => x.passable test && y.passable test
  | alt x y => x.passable test || y.passable test
  | rep low _ x => low == 0 || x.passable test

end Expr

/-! ### Steps -/

/-- Which characters words are made of. -/
inductive Words where
  | ascii
  | unicode
  deriving DecidableEq, Repr

/-- The characters that words are made of. -/
def Words.set : Words → CharSet
  | ascii => .ofRanges [(48, 57), (65, 90), (95, 95), (97, 122)]
  | unicode => Unicode.wordCharacters

/-- Whether there is a character and words are made of it. -/
def Words.has (words : Words) (side : Option Char) : Bool :=
  side.any words.set.contains

/-- What may be asked of a place. -/
inductive Look where
  | textStart
  | textEnd
  | lineStart
  | lineEnd
  | lineStartCr
  | lineEndCr
  | boundary (words : Words)
  | noBoundary (words : Words)
  | wordStart (words : Words)
  | wordEnd (words : Words)
  | wordStartHalf (words : Words)
  | wordEndHalf (words : Words)
  deriving DecidableEq, Repr

namespace Look

/-- Whether a place between two characters, or at an end of the line, is as asked. -/
def holds (before after : Option Char) : Look → Bool
  | textStart => before.isNone
  | textEnd => after.isNone
  | lineStart => before.isNone || before == some '\n'
  | lineEnd => after.isNone || after == some '\n'
  | lineStartCr =>
    before.isNone || before == some '\n' || (before == some '\r' && after != some '\n')
  | lineEndCr =>
    after.isNone || after == some '\r' || (after == some '\n' && before != some '\r')
  | boundary words => words.has before != words.has after
  | noBoundary words => words.has before == words.has after
  | wordStart words => !words.has before && words.has after
  | wordEnd words => words.has before && !words.has after
  | wordStartHalf words => !words.has before
  | wordEndHalf words => !words.has after

/-- Whether a place inside a character is as asked. -/
def holdsInside : Look → Bool
  | noBoundary .ascii | wordStartHalf .ascii | wordEndHalf .ascii => true
  | _ => false

/-- Whether it is asked about words in the sense of Unicode. -/
def asksUnicode : Look → Bool
  | boundary words | noBoundary words | wordStart words | wordEnd words | wordStartHalf words
  | wordEndHalf words => words == .unicode
  | _ => false

end Look

/-- A step: across a character of a set, or none, at a place that is as asked. -/
inductive Step where
  | across (set : CharSet)
  | at (look : Look)
  deriving Repr

namespace Step

/-- Whether the step takes a character. -/
def takes : Step → Bool
  | .across _ => true
  | .at _ => false

/-- Whether the step can be made at a place inside a character. -/
def staysInside : Step → Bool
  | .across _ => false
  | .at look => look.holdsInside

/-- Whether it is asked about words in the sense of Unicode. -/
def asksUnicode : Step → Bool
  | .across _ => false
  | .at look => look.asksUnicode

/-- The same step, but across ASCII characters only. -/
def toAscii : Step → Step
  | .across set => .across (set.inter (.interval 0 0x7F))
  | .at look => .at look

end Step

/-! ### Size -/

/-- How many bytes a character takes. -/
def bytesOf (code : Nat) : Nat :=
  if code < 0x80 then 1 else if code < 0x800 then 2 else if code < 0x10000 then 3 else 4

/-- How many states a step takes at least: one for each byte of the longest character. -/
def Step.leastStates : Step → Nat
  | .across set => (set.ranges.back?.map fun range => bytesOf range.2).getD 0
  | .at _ => 0

/-- How many states a machine for the expression has at least.  Branches that begin alike may be
built as one, so only the largest is counted. -/
def Expr.leastStates : Expr Step → Nat
  | stay => 0
  | step a => a.leastStates
  | seq x y => x.leastStates + y.leastStates
  | alt x y => max x.leastStates y.leastStates
  | rep low high x => high.getD (max low 1) * x.leastStates

/-- How many bytes the machine takes at least.  Any state may have to hold a vector, and that alone
takes 24. -/
def Expr.leastBytes (expr : Expr Step) : Nat :=
  24 * expr.leastStates

/-! ### Repetition -/

/-- From `low` to `high` rounds.  No round at all is no step, and if no character is taken in a
round, one round is as good as many. -/
def Expr.repeated (low : Nat) (high : Option Nat) (body : Expr Step) : Expr Step :=
  if high = some 0 then .stay
  else if body.any Step.takes then .rep low high body
  else .rep (min low 1) (some 1) body

end LineCut.Pattern
